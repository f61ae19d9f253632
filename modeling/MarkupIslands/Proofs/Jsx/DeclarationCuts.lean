import MarkupIslands.Proofs.Jsx.Declarations
import MarkupIslands.Text.Slice

/-!
# Where a style is cut

A style is cut at the semicolons behind which nothing is open, and nowhere else: its pieces joined
by semicolons are the style, no piece has such a semicolon of its own, and cutting the two sides of
one apart changes nothing. The byte offsets that one pass over the characters finds (`cuts`) are all
boundaries of characters, so the pieces can be sliced out of the text whatever characters it is made
of.
-/

namespace MarkupIslands.Jsx.Style

open MarkupIslands.Text

/-! ## Pieces without an end in them -/

/-- No semicolon of a text ends a declaration exactly if something is open behind each text before
one. -/
theorem Scan.keeps_iff (scan : Scan) (text : List Char) :
    scan.keeps text ↔
      ∀ before behind, text = before ++ ';' :: behind → ¬ (scan.after before).isClosed := by
  constructor
  · rintro h before behind rfl hclosed
    rw [keeps_append, keeps, hclosed] at h
    simp at h
  · intro h
    induction text generalizing scan with
    | nil => rfl
    | cons c rest ih =>
      have hrest : (scan.next c).keeps rest := by
        apply ih
        intro before behind heq
        exact h (c :: before) behind (congrArg (c :: ·) heq)
      have hc : (c = ';' && scan.isClosed) = false := by
        rw [Bool.and_eq_false_imp]
        intro hsemicolon
        have hfirst := h [] rest (by rw [of_decide_eq_true hsemicolon]; rfl)
        exact Bool.eq_false_iff.mpr hfirst
      rw [keeps, hc, hrest]
      rfl

/-- The first piece is scanned from where the text is, and every later one from the start. -/
theorem keeps_of_split {scan : Scan} {text first : List Char} {others : List (List Char)}
    (h : split scan text = first :: others) :
    scan.keeps first ∧ ∀ piece ∈ others, ({} : Scan).keeps piece := by
  induction text generalizing scan first others with
  | nil =>
    obtain ⟨rfl, rfl⟩ := List.cons.inj h
    exact ⟨rfl, by simp⟩
  | cons c rest ih =>
    cases hc : (c = ';' && scan.isClosed : Bool) with
    | true =>
      obtain ⟨-, hclosed⟩ := Bool.and_eq_true_iff.mp hc
      obtain rfl := (Scan.isClosed_iff scan).mp hclosed
      rw [split, hc, if_pos rfl] at h
      obtain ⟨rfl, rfl⟩ := List.cons.inj h
      obtain ⟨piece, pieces, hpieces⟩ := exists_split_eq_cons {} rest
      rw [hpieces]
      exact ⟨rfl, List.forall_mem_cons.mpr (ih hpieces)⟩
    | false =>
      obtain ⟨piece, pieces, hpieces⟩ := exists_split_eq_cons (scan.next c) rest
      rw [split_cons_of_ne hc hpieces] at h
      obtain ⟨rfl, rfl⟩ := List.cons.inj h
      obtain ⟨hpiece, hothers⟩ := ih hpieces
      rw [Scan.keeps, hc, hpiece]
      exact ⟨rfl, hothers⟩

theorem keeps_of_mem_declarations {style piece : List Char} (h : piece ∈ declarations style) :
    ({} : Scan).keeps piece := by
  obtain ⟨first, others, hsplit⟩ := exists_split_eq_cons {} style
  obtain ⟨hfirst, hothers⟩ := keeps_of_split hsplit
  rw [declarations, hsplit] at h
  rcases List.mem_cons.mp h with rfl | hmem
  · exact hfirst
  · exact hothers piece hmem

/-! ## Cutting by offsets -/

/-- The pieces stand between the cuts. -/
theorem map_slice?_cuts {scan : Scan} {text rest first : List Char} {others : List (List Char)}
    (before piece : List Char) (htext : text = before ++ piece ++ rest)
    (h : split scan rest = first :: others) :
    (cuts scan (byteSize before) (byteSize (before ++ piece)) rest).map
        (fun cut ↦ slice? (String.ofList text) cut.1 cut.2) =
      ((piece ++ first) :: others).map fun part ↦ some (String.ofList part) := by
  -- `piece` is what was read of the current declaration, and `before` all before it
  induction rest generalizing scan before piece first others with
  | nil =>
    obtain ⟨rfl, rfl⟩ := List.cons.inj h
    rw [cuts, List.map_singleton, List.map_singleton, htext, slice?_byteSize, List.append_nil]
  | cons c rest ih =>
    cases hc : (c = ';' && scan.isClosed : Bool) with
    | true =>
      obtain ⟨hsemicolon, -⟩ := Bool.and_eq_true_iff.mp hc
      obtain rfl := of_decide_eq_true hsemicolon
      rw [split, hc, if_pos rfl] at h
      obtain ⟨rfl, rfl⟩ := List.cons.inj h
      obtain ⟨next, later, hnext⟩ := exists_split_eq_cons scan rest
      have hslice : slice? (String.ofList text) (byteSize before) (byteSize (before ++ piece)) =
          some (String.ofList piece) := by
        rw [htext, slice?_byteSize]
      have hbehind : text = (before ++ piece ++ [';']) ++ [] ++ rest := by
        rw [htext, List.append_nil, List.append_assoc _ [';'], List.singleton_append]
      have hrest := ih _ _ hbehind hnext
      rw [List.append_nil, byteSize_concat, List.nil_append] at hrest
      rw [cuts, hc, if_pos rfl, List.map_cons, hslice, hnext, List.append_nil, List.map_cons]
      exact congrArg _ hrest
    | false =>
      obtain ⟨next, later, hnext⟩ := exists_split_eq_cons (scan.next c) rest
      rw [split_cons_of_ne hc hnext] at h
      obtain ⟨rfl, rfl⟩ := List.cons.inj h
      have hlonger : text = before ++ (piece ++ [c]) ++ rest := by
        rw [htext, ← List.append_assoc, List.append_assoc _ [c], List.singleton_append]
      have hrest := ih _ _ hlonger hnext
      rw [← List.append_assoc, byteSize_concat, List.append_assoc, List.singleton_append] at hrest
      rw [cuts, hc, if_neg Bool.false_ne_true]
      exact hrest

/-- A style is cut exactly at the semicolons behind which nothing is open. Its pieces joined by
semicolons are the style again, no piece read by itself comes to such a semicolon, and at each of
them the style falls into two styles that are cut on their own. Every cut is a boundary of
characters, so slicing the style by bytes gives its pieces. -/
theorem declarations_cut_where_closed (style : String) :
    [';'].intercalate (declarations style.toList) = style.toList ∧
      (∀ piece ∈ declarations style.toList, ∀ before behind, piece = before ++ ';' :: behind →
        ¬ (({} : Scan).after before).isClosed) ∧
      ((({} : Scan).after style.toList).isClosed → ∀ rest : List Char,
        declarations (style.toList ++ ';' :: rest) =
          declarations style.toList ++ declarations rest) ∧
      (cuts {} 0 0 style.toList).map (fun cut ↦ slice? style cut.1 cut.2) =
        (declarations style.toList).map fun piece ↦ some (String.ofList piece) := by
  refine ⟨intercalate_split {} style.toList, ?_, split_append_semicolon, ?_⟩
  · intro piece hpiece
    exact (Scan.keeps_iff {} piece).mp (keeps_of_mem_declarations hpiece)
  · obtain ⟨first, others, hsplit⟩ := exists_split_eq_cons {} style.toList
    have hslices := map_slice?_cuts [] [] rfl hsplit
    rw [List.nil_append, List.nil_append, List.nil_append, String.ofList_toList] at hslices
    rw [declarations, hsplit]
    exact hslices

/-- Closing parentheses without an opening one, a semicolon in a quote and one in parentheses, and a
letter of two bytes. -/
def unbalancedStyle : String := "a:é));b:(';)';\\))"

/-- The style is cut at its first semicolon, and in front of a quote that is never closed and a
backslash at the end of the text it is cut in the same way. -/
theorem declarations_unbalancedStyle :
    (({} : Scan).after unbalancedStyle.toList).isClosed ∧
      declarations (unbalancedStyle.toList ++ ';' :: "ß:\";\\".toList) =
        ["a:é))".toList, "b:(';)';\\))".toList, "ß:\";\\".toList] ∧
      cuts {} 0 0 unbalancedStyle.toList = [(0, 6), (7, 18)] ∧
      [slice? unbalancedStyle 0 6, slice? unbalancedStyle 7 18] =
        [some "a:é))", some "b:(';)';\\))"] := by
  obtain ⟨-, -, hcut, hslices⟩ := declarations_cut_where_closed unbalancedStyle
  have hclosed : (({} : Scan).after unbalancedStyle.toList).isClosed := by decide
  have hcuts : cuts {} 0 0 unbalancedStyle.toList = [(0, 6), (7, 18)] := by decide
  rw [hcuts] at hslices
  exact ⟨hclosed, (hcut hclosed _).trans (by decide), hcuts, hslices.trans (by decide)⟩

end MarkupIslands.Jsx.Style
