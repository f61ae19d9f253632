import MarkupIslands.Plugin.Gate

/-!
# Obtaining a collaborator

Both kinds of gates obtain a collaborator in the same way: what is kept is handed out, otherwise the
loader is called, and what it brings is kept. So the loader is called exactly if nothing is kept,
and what is kept has been brought by the loader.
-/

namespace MarkupIslands.Plugin

open MarkupIslands.Island

/-- The numbers that a counter takes on its way from one value to another. -/
def numbersBetween (first last : Nat) : List Nat := List.range' (first + 1) (last - first)

@[simp]
theorem numbersBetween_self (count : Nat) : numbersBetween count count = [] := by
  simp [numbersBetween]

@[simp]
theorem numbersBetween_succ (count : Nat) : numbersBetween count (count + 1) = [count + 1] := by
  simp [numbersBetween]

/-- What obtaining a collaborator does to the counter of its loader and to what is kept of it, and
what it comes to. Both kinds of gates go this way. -/
inductive Obtains {α : Type} (loader : Nat → Except Failure α) :
    Nat → Option (Loaded α) → Nat → Option (Loaded α) → Except Failure (Loaded α) → Prop
  /-- What is kept is handed out again. -/
  | again (loads : Nat) (loaded : Loaded α) :
    Obtains loader loads (some loaded) loads (some loaded) (.ok loaded)
  /-- A load that fails leaves nothing behind. -/
  | fails {loads : Nat} {failure : Failure} (h : loader (loads + 1) = .error failure) :
    Obtains loader loads none (loads + 1) none (.error failure)
  /-- A load that succeeds is kept. -/
  | succeeds {loads : Nat} {value : α} (h : loader (loads + 1) = .ok value) :
    Obtains loader loads none (loads + 1) (some ⟨loads + 1, value⟩) (.ok ⟨loads + 1, value⟩)

namespace Obtains

variable {α : Type} {loader : Nat → Except Failure α} {loads next : Nat}
  {kept kept' : Option (Loaded α)} {result : Except Failure (Loaded α)}

/-- The loader is called exactly if nothing is kept. -/
theorem numbers_ne_nil_iff (h : Obtains loader loads kept next kept' result) :
    numbersBetween loads next ≠ [] ↔ kept = none := by
  cases h <;> simp

theorem length_numbers_le (h : Obtains loader loads kept next kept' result) :
    (numbersBetween loads next).length ≤ 1 := by
  cases h <;> simp

theorem add_length_numbers (h : Obtains loader loads kept next kept' result) :
    loads + (numbersBetween loads next).length = next := by
  cases h <;> simp

/-- What is kept afterwards is what was kept or what the load has brought. -/
theorem kept_append (h : Obtains loader loads kept next kept' result) :
    (kept.map Loaded.load).toList ++
        (numbersBetween loads next).filter (fun number ↦ (loader number).isOk) =
      (kept'.map Loaded.load).toList := by
  cases h with
  | again => simp
  | fails h => simp [h, Except.isOk, Except.toBool]
  | succeeds h => simp [h, Except.isOk, Except.toBool]

/-- What is kept has been brought by the load that it names. -/
theorem loader_of_kept (h : Obtains loader loads kept next kept' result)
    (hkept : ∀ loaded, kept = some loaded → loader loaded.load = .ok loaded.value) :
    ∀ loaded, kept' = some loaded → loader loaded.load = .ok loaded.value := by
  cases h with
  | again => exact hkept
  | fails h => exact hkept
  | succeeds h =>
    rintro _ ⟨⟩
    exact h

theorem kept_eq_none {failure : Failure}
    (h : Obtains loader loads kept next kept' (.error failure)) : kept' = none := by
  cases h
  rfl

theorem result_eq_ok_iff (h : Obtains loader loads kept next kept' result) (loaded : Loaded α) :
    result = .ok loaded ↔ kept' = some loaded := by
  cases h <;> simp

/-- Obtaining fails exactly with the failure of the load that it makes. -/
theorem result_eq_error_iff (h : Obtains loader loads kept next kept' result)
    (failure : Failure) :
    result = .error failure ↔
      ∃ number ∈ numbersBetween loads next, loader number = .error failure := by
  cases h with
  | again => simp
  | fails h => simp [h]
  | succeeds h => simp [h]

end Obtains

theorem ParserGate.obtains (gate : ParserGate) :
    Obtains gate.loader gate.loads gate.parser gate.obtain.1.loads gate.obtain.1.parser
      gate.obtain.2 := by
  rcases gate with ⟨loader, loads, _ | parser⟩
  · cases hload : loader (loads + 1) with
    | error failure => simpa [ParserGate.obtain, hload] using Obtains.fails hload
    | ok value => simpa [ParserGate.obtain, hload] using Obtains.succeeds hload
  · exact .again loads parser

theorem ParserGate.loader_obtain (gate : ParserGate) : gate.obtain.1.loader = gate.loader := by
  unfold ParserGate.obtain
  split
  · rfl
  · dsimp only
    split <;> rfl

namespace SerializerGate

@[simp]
theorem loaded?_keep (gate : SerializerGate) (format other : Format)
    (serializer : Loaded Serializer) :
    (gate.keep format serializer).loaded? other =
      if other = format then some serializer else gate.loaded? other := by
  cases format <;> cases other <;> rfl

@[simp]
theorem loads_keep (gate : SerializerGate) (format : Format) (serializer : Loaded Serializer) :
    (gate.keep format serializer).loads = gate.loads := by
  cases format <;> rfl

@[simp]
theorem loader_keep (gate : SerializerGate) (format : Format) (serializer : Loaded Serializer) :
    (gate.keep format serializer).loader = gate.loader := by
  cases format <;> rfl

/-- Counting a load does not change what is kept. -/
@[simp]
theorem loaded?_count (gate : SerializerGate) (loads : Nat) (format : Format) :
    loaded? { gate with loads := loads } format = gate.loaded? format := by
  cases format <;> rfl

theorem obtains (gate : SerializerGate) (target : Target) :
    Obtains (gate.loader target.format) gate.loads (gate.loaded? target.format)
      (gate.obtain target).1.loads ((gate.obtain target).1.loaded? target.format)
      (gate.obtain target).2 := by
  unfold SerializerGate.obtain
  cases hkept : gate.loaded? target.format with
  | some serializer =>
    simpa [hkept] using Obtains.again gate.loads serializer
  | none =>
    cases hload : gate.loader target.format (gate.loads + 1) with
    | error failure => simpa [hload, hkept] using Obtains.fails hload
    | ok value => simpa [hload] using Obtains.succeeds hload

theorem loader_obtain (gate : SerializerGate) (target : Target) :
    (gate.obtain target).1.loader = gate.loader := by
  unfold SerializerGate.obtain
  split
  · rfl
  · dsimp only
    split
    · rfl
    · exact loader_keep _ _ _

/-- Obtaining a serializer does not change what is kept for another format. -/
theorem loaded?_obtain_of_ne (gate : SerializerGate) {target : Target} {format : Format}
    (h : format ≠ target.format) :
    (gate.obtain target).1.loaded? format = gate.loaded? format := by
  unfold SerializerGate.obtain
  split
  · rfl
  · dsimp only
    split
    · exact loaded?_count gate _ format
    · rw [loaded?_keep, if_neg h, loaded?_count]

end SerializerGate

end MarkupIslands.Plugin
