import MarkupIslands.Text.Portion
import Mathlib.Data.List.Basic

/-!
# What is kept of a text taken in by portions

A byte order mark that begins a portion is dropped. What is kept of a text is the text itself
exactly if no portion begins with such a mark, and a text written character by character is kept
character by character.
-/

namespace MarkupIslands.Text

def orderMark : Char := '\ufeff'

namespace Place

/-- The place behind a text. -/
def after (place : Place) (text : List Char) : Place := text.foldl advance place

/-- The text without the byte order marks that begin a portion. -/
def kept (place : Place) : List Char → List Char
  | [] => []
  | c :: rest =>
    if c = orderMark && place.begins c then (place.advance c).kept rest
    else c :: (place.advance c).kept rest

variable {place : Place} {c : Char} {text : List Char}

theorem kept_cons_of_dropped (h : (c = orderMark && place.begins c) = true) (text : List Char) :
    place.kept (c :: text) = (place.advance c).kept text := by
  rw [kept, if_pos h]

theorem kept_cons_of_not_dropped (h : (c = orderMark && place.begins c) = false)
    (text : List Char) : place.kept (c :: text) = c :: (place.advance c).kept text := by
  rw [kept, if_neg (Bool.eq_false_iff.mp h)]

theorem kept_cons_of_ne (h : c ≠ orderMark) (text : List Char) :
    place.kept (c :: text) = c :: (place.advance c).kept text :=
  kept_cons_of_not_dropped (by simp [h]) text

theorem kept_append (place : Place) (text more : List Char) :
    place.kept (text ++ more) = place.kept text ++ (place.after text).kept more := by
  induction text generalizing place with
  | nil => rfl
  | cons c text ih =>
    cases h : decide (c = orderMark) && place.begins c with
    | true =>
      rw [List.cons_append, kept_cons_of_dropped h, kept_cons_of_dropped h, ih]
      rfl
    | false =>
      rw [List.cons_append, kept_cons_of_not_dropped h, kept_cons_of_not_dropped h, ih]
      rfl

theorem kept_sublist (place : Place) (text : List Char) : (place.kept text).Sublist text := by
  induction text generalizing place with
  | nil => exact .slnil
  | cons c text ih =>
    cases h : decide (c = orderMark) && place.begins c with
    | true =>
      rw [kept_cons_of_dropped h]
      exact (ih _).cons c
    | false =>
      rw [kept_cons_of_not_dropped h]
      exact (ih _).cons_cons c

theorem kept_of_not_mem (h : orderMark ∉ text) : place.kept text = text := by
  induction text generalizing place with
  | nil => rfl
  | cons c text ih =>
    have hne : c ≠ orderMark := fun heq ↦ h (heq ▸ List.mem_cons_self)
    rw [kept_cons_of_ne hne, ih fun hmem ↦ h (List.mem_cons_of_mem c hmem)]

/-- Behind a text of single bytes that fills a portion the next portion begins. -/
theorem after_of_fills {room : Nat} {fresh : Bool} (hnarrow : ∀ c ∈ text, c.utf8Size = 1)
    (hne : text ≠ []) (hlength : text.length = room) : after ⟨room, 0, fresh⟩ text = {} := by
  induction text generalizing room fresh with
  | nil => exact absurd rfl hne
  | cons c text ih =>
    obtain ⟨hc, hnarrow⟩ := List.forall_mem_cons.mp hnarrow
    rw [List.length_cons] at hlength
    rw [after, List.foldl_cons, advance, hc, if_neg (Nat.not_succ_le_zero 0)]
    by_cases hnil : text = []
    · subst hnil hlength
      rfl
    · have hpos := List.length_pos_of_ne_nil hnil
      rw [if_pos (by simp only; omega)]
      exact ih hnarrow hnil (by simp only; omega)

/-- A text is kept whole exactly if its parts are. -/
theorem kept_append_eq_self_iff {more : List Char} :
    place.kept (text ++ more) = text ++ more ↔
      place.kept text = text ∧ (place.after text).kept more = more := by
  rw [kept_append]
  constructor
  · intro heq
    have hlengths := congrArg List.length heq
    have htext := (place.kept_sublist text).length_le
    have hmore := ((place.after text).kept_sublist more).length_le
    rw [List.length_append, List.length_append] at hlengths
    exact List.append_inj heq (by omega)
  · rintro ⟨htext, hmore⟩
    rw [htext, hmore]

variable {start stop : List Char}

/-- Between two texts without byte order marks only the inner text can lose some. -/
theorem kept_between (hstart : orderMark ∉ start) (hstop : orderMark ∉ stop) (text : List Char) :
    place.kept (start ++ (text ++ stop)) = start ++ ((place.after start).kept text ++ stop) := by
  rw [kept_append, kept_append, kept_of_not_mem hstart, kept_of_not_mem hstop]

/-- Where marks can only stand in the middle of a text, nothing is dropped of the whole exactly if
nothing is dropped there. -/
theorem kept_between_eq_self_iff (hstart : orderMark ∉ start) (hstop : orderMark ∉ stop)
    (text : List Char) :
    place.kept (start ++ (text ++ stop)) = start ++ (text ++ stop) ↔
      (place.after start).kept text = text := by
  rw [kept_between hstart hstop, List.append_cancel_left_eq, List.append_cancel_right_eq]

/-- What is kept of a written text is the written form of some of its characters, if the byte order
mark is written as it is and is no part of another written form. -/
theorem exists_kept_flatMap {write : Char → List Char} (hmark : write orderMark = [orderMark])
    (hother : ∀ c, c ≠ orderMark → orderMark ∉ write c) (place : Place) (text : List Char) :
    ∃ text' : List Char,
      text'.Sublist text ∧ place.kept (text.flatMap write) = text'.flatMap write := by
  induction text generalizing place with
  | nil => exact ⟨[], .slnil, rfl⟩
  | cons c text ih =>
    obtain ⟨text', hsublist, htext⟩ := ih (place.after (write c))
    rw [List.flatMap_cons, kept_append, htext]
    by_cases hc : c = orderMark
    · subst hc
      rw [hmark]
      cases h : decide (orderMark = orderMark) && place.begins orderMark with
      | true =>
        rw [kept_cons_of_dropped h]
        exact ⟨text', hsublist.cons _, rfl⟩
      | false =>
        rw [kept_cons_of_not_dropped h]
        exact ⟨orderMark :: text', hsublist.cons_cons _, by rw [List.flatMap_cons, hmark]; rfl⟩
    · rw [kept_of_not_mem (hother c hc)]
      exact ⟨c :: text', hsublist.cons_cons c, rfl⟩

end Place

end MarkupIslands.Text
