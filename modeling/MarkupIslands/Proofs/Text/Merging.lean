import Mathlib.Data.List.Basic

/-!
# Merged texts

In a list of nodes, texts that stand next to each other are written like one text, and an empty text
is not seen at all. Such lists are brought into a form in which every text stands apart: a node is
put in front of later ones with `prepend`, by which a text joins the text behind it and an empty
text goes.
-/

namespace MarkupIslands

/-- Nodes some of which are texts. -/
class HasText (ν : Type) where
  text : String → ν
  text? : ν → Option String
  text?_eq_some_iff {node : ν} {value : String} : text? node = some value ↔ node = text value

namespace HasText

variable {ν : Type} [HasText ν]

theorem text?_text (value : String) : text? (text value : ν) = some value :=
  text?_eq_some_iff.mpr rfl

/-- The text that a list begins with, and what is behind it. -/
def splitText? : List ν → Option (String × List ν)
  | [] => none
  | node :: rest => (text? node).map (·, rest)

def beginsWithText (nodes : List ν) : Bool := (splitText? nodes).isSome

/-- A node is no empty text, and no text in front of another one. -/
def StandsApart (node : ν) (nodes : List ν) : Prop :=
  ∀ value, node = text value → value ≠ "" ∧ beginsWithText nodes = false

/-- Puts a node in front of later ones. -/
def prepend (node : ν) (nodes : List ν) : List ν :=
  match text? node, splitText? nodes with
  | some value, some (next, rest) => text (value ++ next) :: rest
  | some value, none => if value = "" then nodes else node :: nodes
  | none, _ => node :: nodes

theorem splitText?_eq_some_iff {nodes rest : List ν} {value : String} :
    splitText? nodes = some (value, rest) ↔ nodes = text value :: rest := by
  cases nodes with
  | nil => simp [splitText?]
  | cons node others => simp [splitText?, text?_eq_some_iff]

/-- A node joins the text behind it, goes, or stands in front of the later ones. -/
theorem prepend_cases (node : ν) (nodes : List ν) :
    (∃ value next rest, node = text value ∧ nodes = text next :: rest ∧
        prepend node nodes = text (value ++ next) :: rest) ∨
      (node = text "" ∧ prepend node nodes = nodes) ∨
      (StandsApart node nodes ∧ prepend node nodes = node :: nodes) := by
  unfold prepend
  cases hnode : text? node with
  | none =>
    refine .inr (.inr ⟨?_, rfl⟩)
    rintro value rfl
    rw [text?_text] at hnode
    cases hnode
  | some value =>
    obtain rfl := text?_eq_some_iff.mp hnode
    cases hnodes : splitText? nodes with
    | some found => exact .inl ⟨value, found.1, found.2, rfl, splitText?_eq_some_iff.mp hnodes, rfl⟩
    | none =>
      by_cases hvalue : value = ""
      · exact .inr (.inl ⟨by rw [hvalue], if_pos hvalue⟩)
      · refine .inr (.inr ⟨?_, if_neg hvalue⟩)
        intro other hother
        rw [← text?_eq_some_iff, hnode] at hother
        obtain rfl := Option.some.inj hother
        exact ⟨hvalue, by rw [beginsWithText, hnodes]; rfl⟩

variable {node : ν} {nodes : List ν}

/-- An output that writes a joined text like its parts writes all nodes as before. -/
theorem flatMap_prepend {α : Type} {write : ν → List α} (hempty : write (text "") = [])
    (happend : ∀ value next, write (text (value ++ next)) = write (text value) ++ write (text next))
    (node : ν) (nodes : List ν) :
    (prepend node nodes).flatMap write = write node ++ nodes.flatMap write := by
  rcases prepend_cases node nodes with ⟨value, next, rest, rfl, rfl, heq⟩ | ⟨rfl, heq⟩ | ⟨-, heq⟩
  · rw [heq, List.flatMap_cons, List.flatMap_cons, happend, List.append_assoc]
  · rw [heq, hempty, List.nil_append]
  · rw [heq, List.flatMap_cons]

/-- What holds of a joined text if it holds of its parts goes on holding of all nodes. -/
theorem forall_mem_prepend {p : ν → Prop}
    (happend : ∀ value next, p (text value) → p (text next) → p (text (value ++ next)))
    (hnode : p node) (hnodes : ∀ other ∈ nodes, p other) :
    ∀ other ∈ prepend node nodes, p other := by
  rcases prepend_cases node nodes with ⟨value, next, rest, rfl, rfl, heq⟩ | ⟨rfl, heq⟩ | ⟨-, heq⟩
  · obtain ⟨hnext, hrest⟩ := List.forall_mem_cons.mp hnodes
    rw [heq]
    exact List.forall_mem_cons.mpr ⟨happend value next hnode hnext, hrest⟩
  · rw [heq]
    exact hnodes
  · rw [heq]
    exact List.forall_mem_cons.mpr ⟨hnode, hnodes⟩

/-- No node is an empty text, and no text has another one behind it. -/
def AreApart : List ν → Prop
  | [] => True
  | node :: rest => StandsApart node rest ∧ AreApart rest

theorem areApart_prepend (node : ν) (h : AreApart nodes) : AreApart (prepend node nodes) := by
  rcases prepend_cases node nodes with ⟨value, next, rest, rfl, rfl, heq⟩ | ⟨-, heq⟩ |
    ⟨hnode, heq⟩
  · rw [heq]
    refine ⟨?_, h.2⟩
    obtain ⟨hnext, hbegins⟩ := h.1 next rfl
    intro joined hjoined
    rw [← text?_eq_some_iff, text?_text] at hjoined
    obtain rfl := Option.some.inj hjoined
    exact ⟨by simp [hnext], hbegins⟩
  · rw [heq]
    exact h
  · rw [heq]
    exact ⟨hnode, h⟩

end HasText

end MarkupIslands
