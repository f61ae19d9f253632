import MarkupIslands.Jsx.Print
import MarkupIslands.Proofs.Jsx.Sources

/-!
# Reading attributes

The attributes of an element are written one after the other, each behind a blank. Names end where a
character comes that cannot go on them, values between quotes hold no quote, and expressions and
spreads are read without looking for the brace behind them. So the attributes can be told from what
is written up to the end of the tag.
-/

namespace MarkupIslands.Jsx

open MarkupIslands.Text

/-! ## Attributes that can be read back -/

/-- The values that can be read back: a text between quotes holds none, and an expression is one of
the sources above. -/
def AttributeValue.IsReadable : AttributeValue → Prop
  | .bare => True
  | .text value => '"' ∉ value.toList
  | .expression source => source.toList ∈ expressions

def Attribute.IsReadable : Attribute → Prop
  | .named name value => isSpellable name.toList ∧ value.IsReadable
  | .spread object => object.toList ∈ spreads

/-- Every value that the conversion makes can be read back. -/
theorem isReadable_of_convertProperty {name spelling : String} {property : Markup.PropertyValue}
    {value : AttributeValue} (h : convertProperty name property = some (spelling, value)) :
    value.IsReadable := by
  unfold convertProperty at h
  split at h
  · cases h
  · cases h
    trivial
  · rename_i text
    obtain rfl := (Prod.mk.inj (Option.some.inj h)).2
    split
    · rw [AttributeValue.IsReadable, String.toList_ofList]
      exact source_mem_expressions _
    · split
      · trivial
      · split
        · exact quote_mem_expressions text
        · rename_i hquoting
          exact fun hmem ↦ hquoting (List.any_eq_true.mpr ⟨'"', hmem, by decide⟩)

/-- A readable value may be spread as well. -/
theorem spreadEntry_mem_spreadEntries (name : String) {value : AttributeValue}
    (hvalue : value.IsReadable) : spreadEntry name value ∈ spreadEntries := by
  have hentry {source : List Char} (hsource : source ∈ {"true".toList} + expressions) :
      quoteChars name.toList ++ ':' :: ' ' :: source ∈ spreadEntries :=
    ⟨quoteChars name.toList ++ [':', ' '], ⟨_, quoteChars_mem_literals _, _, rfl, rfl⟩, source,
      hsource, by simp⟩
  cases value with
  | bare => exact hentry (.inl rfl)
  | text value => exact hentry (.inr (.inl (quoteChars_mem_literals value.toList)))
  | expression source => exact hentry (.inr hvalue)

/-- All attributes of a converted element can be read back. -/
theorem isReadable_of_mem_convertProperties {properties : Markup.Properties} {attr : Attribute}
    (h : attr ∈ convertProperties properties) : attr.IsReadable := by
  have hvalue {name : String} {value : AttributeValue}
      (hmem : (name, value) ∈ properties.entries.filterMap fun entry ↦
        convertProperty entry.1 entry.2) : value.IsReadable := by
    obtain ⟨⟨_, property⟩, -, hproperty⟩ := List.mem_filterMap.mp hmem
    exact isReadable_of_convertProperty hproperty
  simp only [convertProperties, List.partition_eq_filter_filter] at h
  rcases List.mem_append.mp h with hspelled | hspread
  · obtain ⟨⟨name, value⟩, hmem, rfl⟩ := List.mem_map.mp hspelled
    obtain ⟨hmem, hspellable⟩ := List.mem_filter.mp hmem
    exact ⟨hspellable, hvalue hmem⟩
  · split at hspread
    · cases hspread
    · obtain rfl := List.mem_singleton.mp hspread
      rw [Attribute.IsReadable, String.toList_ofList]
      refine ⟨_, fun item hitem ↦ ?_, rfl⟩
      obtain ⟨⟨name, value⟩, hmem, rfl⟩ := List.mem_map.mp hitem
      exact spreadEntry_mem_spreadEntries name (hvalue (List.mem_of_mem_filter hmem))

/-! ## Attributes and what follows them -/

/-- What comes behind the attributes of an element. -/
def IsTagEnd (text : List Char) : Prop :=
  (∃ rest, text = '>' :: rest) ∨ ∃ rest, text = ' ' :: '/' :: rest

/-- What comes behind a name or an attribute. -/
def EndsAttribute (text : List Char) : Prop :=
  (∃ rest, text = '>' :: rest) ∨ ∃ rest, text = ' ' :: rest

theorem IsTagEnd.endsAttribute {text : List Char} (h : IsTagEnd text) : EndsAttribute text := by
  rcases h with h | ⟨rest, rfl⟩
  · exact .inl h
  · exact .inr ⟨_, rfl⟩

theorem EndsAttribute.head {text : List Char} (h : EndsAttribute text) {p : Char → Bool}
    (hclose : p '>' = false) (hblank : p ' ' = false) :
    ∀ c, text.head? = some c → p c = false := by
  rintro c hc
  rcases h with ⟨rest, rfl⟩ | ⟨rest, rfl⟩
  · obtain rfl := Option.some.inj hc
    exact hclose
  · obtain rfl := Option.some.inj hc
    exact hblank

def writeValue : AttributeValue → List Char
  | .bare => []
  | .text value => '=' :: '"' :: (value.toList ++ ['"'])
  | .expression source => '=' :: '\x7b' :: (source.toList ++ ['\x7d'])

theorem writeAttribute_named (name : String) (value : AttributeValue) :
    writeAttribute (.named name value) = ' ' :: (name.toList ++ writeValue value) := by
  cases value <;> simp [writeAttribute, writeValue]

/-- More attributes or the end of the tag come behind an attribute. -/
theorem endsAttribute_attributes (attrs : List Attribute) {text : List Char}
    (htext : IsTagEnd text) : EndsAttribute (attrs.flatMap writeAttribute ++ text) := by
  cases attrs with
  | nil => exact htext.endsAttribute
  | cons attr attrs =>
    obtain ⟨blank, hblank⟩ := exists_writeAttribute_eq attr
    rw [List.flatMap_cons, hblank]
    exact .inr ⟨_, rfl⟩

variable {x y : List Char}

theorem ne_equals_append (h : EndsAttribute x) (text : List Char) : x ≠ '=' :: text := by
  rintro rfl
  exact absurd (h.head (p := (· == '=')) rfl rfl '=' rfl) (by decide)

/-- The end of a value can be told from its own text. -/
theorem writeValue_append_inj {value other : AttributeValue} (hvalue : value.IsReadable)
    (hother : other.IsReadable) (hx : EndsAttribute x) (hy : EndsAttribute y)
    (heq : writeValue value ++ x = writeValue other ++ y) : value = other ∧ x = y := by
  have hunquoted {text : String} (htext : '"' ∉ text.toList) : ∀ c ∈ text.toList, c != '"' :=
    fun c hc ↦ bne_iff_ne.mpr fun h ↦ htext (h ▸ hc)
  cases value with
  | bare =>
    cases other with
    | bare => exact ⟨rfl, heq⟩
    | text | expression => exact absurd heq (ne_equals_append hx _)
  | text value =>
    cases other with
    | bare => exact absurd heq.symm (ne_equals_append hy _)
    | text other =>
      simp only [writeValue, List.cons_append, List.append_assoc, List.nil_append,
        List.cons.injEq, true_and] at heq
      obtain ⟨htext, hrest⟩ := append_inj_of_stops (hunquoted hvalue) (hunquoted hother)
        (by simp) (by simp) heq
      rw [String.toList_inj.mp htext]
      exact ⟨rfl, (List.cons.inj hrest).2⟩
    | expression other => simp [writeValue] at heq
  | expression source =>
    cases other with
    | bare => exact absurd heq.symm (ne_equals_append hy _)
    | text other => simp [writeValue] at heq
    | expression other =>
      simp only [writeValue, List.cons_append, List.append_assoc, List.nil_append,
        List.cons.injEq, true_and] at heq
      obtain ⟨hsource, hrest⟩ := prefixFree_expressions.append_inj hvalue hother heq
      rw [String.toList_inj.mp hsource]
      exact ⟨rfl, (List.cons.inj hrest).2⟩

theorem head_writeValue (value : AttributeValue) (hx : EndsAttribute x) :
    ∀ c, (writeValue value ++ x).head? = some c → isNamePart c = false := by
  cases value with
  | bare => exact hx.head (by decide) (by decide)
  | text | expression =>
    rintro c hc
    obtain rfl := Option.some.inj hc
    decide

/-- A brace begins no name, so a spread is not taken for an attribute with a name. -/
theorem named_append_ne_spread {name : String} (hname : isSpellable name.toList)
    (value : AttributeValue) (object : String) :
    writeAttribute (.named name value) ++ x ≠ writeAttribute (.spread object) ++ y := by
  obtain ⟨c, rest, hchars, hstart⟩ := exists_eq_cons_of_isSpellable hname
  rw [writeAttribute_named, hchars]
  intro heq
  obtain rfl : c = '\x7b' := (List.cons.inj (List.cons.inj heq).2).1
  exact absurd hstart (by decide)

/-- An attribute can be read off the front of an opening tag. -/
theorem writeAttribute_append_inj {attr other : Attribute} (hattr : attr.IsReadable)
    (hother : other.IsReadable) (hx : EndsAttribute x) (hy : EndsAttribute y)
    (heq : writeAttribute attr ++ x = writeAttribute other ++ y) : attr = other ∧ x = y := by
  cases attr with
  | named name value =>
    cases other with
    | named name' value' =>
      simp only [writeAttribute_named, List.cons_append, List.append_assoc, List.cons.injEq,
        true_and] at heq
      obtain ⟨hname, hrest⟩ := append_inj_of_stops (isNamePart_of_isSpellable hattr.1)
        (isNamePart_of_isSpellable hother.1) (head_writeValue value hx) (head_writeValue value' hy)
        heq
      obtain ⟨hvalue, hend⟩ := writeValue_append_inj hattr.2 hother.2 hx hy hrest
      rw [String.toList_inj.mp hname, hvalue]
      exact ⟨rfl, hend⟩
    | spread object => exact absurd heq (named_append_ne_spread hattr.1 value object)
  | spread object =>
    cases other with
    | named name value => exact absurd heq.symm (named_append_ne_spread hother.1 value object)
    | spread object' =>
      simp only [writeAttribute, List.cons_append, List.append_assoc, List.nil_append,
        List.cons.injEq, true_and] at heq
      obtain ⟨hobject, hrest⟩ := prefixFree_spreads.append_inj hattr hother heq
      rw [String.toList_inj.mp hobject]
      exact ⟨rfl, (List.cons.inj hrest).2⟩

/-- An attribute does not begin with the end of a tag. -/
theorem not_isTagEnd_writeAttribute {attr : Attribute} (hattr : attr.IsReadable)
    (text : List Char) : ¬ IsTagEnd (writeAttribute attr ++ text) := by
  rintro hend
  cases attr with
  | named name value =>
    obtain ⟨c, rest, hchars, hstart⟩ := exists_eq_cons_of_isSpellable hattr.1
    rw [writeAttribute_named, hchars] at hend
    rcases hend with ⟨_, heq⟩ | ⟨_, heq⟩
    · exact absurd (List.cons.inj heq).1 (by decide)
    · obtain rfl : c = '/' := (List.cons.inj (List.cons.inj heq).2).1
      exact absurd hstart (by decide)
  | spread object =>
    rcases hend with ⟨rest, heq⟩ | ⟨rest, heq⟩ <;> simp [writeAttribute] at heq

/-- The attributes of an element can be told from what is written. -/
theorem attributes_append_inj {attrs others : List Attribute}
    (hattrs : ∀ attr ∈ attrs, attr.IsReadable) (hothers : ∀ attr ∈ others, attr.IsReadable)
    (hx : IsTagEnd x) (hy : IsTagEnd y)
    (heq : attrs.flatMap writeAttribute ++ x = others.flatMap writeAttribute ++ y) :
    attrs = others ∧ x = y := by
  induction attrs generalizing others with
  | nil =>
    cases others with
    | nil => exact ⟨rfl, heq⟩
    | cons other others =>
      rw [List.flatMap_nil, List.nil_append, List.flatMap_cons, List.append_assoc] at heq
      exact absurd (heq ▸ hx) (not_isTagEnd_writeAttribute (List.forall_mem_cons.mp hothers).1 _)
  | cons attr attrs ih =>
    cases others with
    | nil =>
      rw [List.flatMap_nil, List.nil_append, List.flatMap_cons, List.append_assoc] at heq
      exact absurd (heq ▸ hy) (not_isTagEnd_writeAttribute (List.forall_mem_cons.mp hattrs).1 _)
    | cons other others =>
      rw [List.forall_mem_cons] at hattrs hothers
      rw [List.flatMap_cons, List.flatMap_cons, List.append_assoc, List.append_assoc] at heq
      obtain ⟨rfl, hrest⟩ := writeAttribute_append_inj hattrs.1 hothers.1
        (endsAttribute_attributes attrs hx) (endsAttribute_attributes others hy) heq
      obtain ⟨rfl, hend⟩ := ih hattrs.2 hothers.2 hrest
      exact ⟨rfl, hend⟩

end MarkupIslands.Jsx
