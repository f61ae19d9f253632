import MarkupIslands.Markup.Parse
import MarkupIslands.Proofs.Text.Kept

/-!
# Reading a text in pieces

The lexer and the tree meet in one place: as long as the tree is done with every token and stays in
ordinary content, a text can be scanned on its own, and its tokens can be taken into the tree on
their own.
-/

namespace MarkupIslands.Markup

open MarkupIslands.Text

/-! ## Scanning -/

namespace Lexer

/-- Reads a text that stands in ordinary content: the state behind it, and the tokens finished. -/
def scan (state : State) : List Char → Result
  | [] => (state, [])
  | c :: rest =>
    let (state', tokens) := step false state c
    let (last, more) := scan state' rest
    (last, tokens ++ more)

variable {state state' last : State} {c : Char} {text rest : List Char} {tokens more : List Token}

@[simp]
theorem scan_nil (state : State) : scan state [] = (state, []) := rfl

theorem scan_cons_of_step (h : step false state c = (state', tokens)) :
    scan state (c :: rest) = ((scan state' rest).1, tokens ++ (scan state' rest).2) := by
  rw [scan, h]

theorem exists_step_of_scan_cons (h : scan state (c :: rest) = (last, tokens)) :
    ∃ state' first more, step false state c = (state', first) ∧
      scan state' rest = (last, more) ∧ tokens = first ++ more := by
  rcases hstep : step false state c with ⟨state', first⟩
  rw [scan_cons_of_step hstep, Prod.mk.injEq] at h
  exact ⟨state', first, (scan state' rest).2, rfl, Prod.ext h.1 rfl, h.2.symm⟩

theorem scan_singleton (state : State) (c : Char) : scan state [c] = step false state c :=
  Prod.ext rfl (List.append_nil _)

/-- A character that finishes no token only changes the state. -/
theorem scan_cons_of_silent (h : step false state c = (state', [])) :
    scan state (c :: rest) = scan state' rest := scan_cons_of_step h

/-- Reading goes on where it stopped. -/
theorem scan_append_of_eq (h : scan state text = (state', tokens))
    (hrest : scan state' rest = (last, more)) :
    scan state (text ++ rest) = (last, tokens ++ more) := by
  induction text generalizing state tokens with
  | nil =>
    obtain ⟨rfl, rfl⟩ := Prod.mk.inj h
    exact hrest
  | cons c text ih =>
    obtain ⟨between, first, later, hstep, htext, rfl⟩ := exists_step_of_scan_cons h
    rw [List.cons_append, scan_cons_of_step hstep, ih htext, List.append_assoc]

/-- A word is collected if every character of it is. -/
theorem scan_of_collects {collect : String → State} {word : List Char}
    (h : ∀ read, ∀ c ∈ word, step false (collect read) c = (collect (read.push c), []))
    (read : String) : scan (collect read) word = (collect (read ++ String.ofList word), []) := by
  induction word generalizing read with
  | nil =>
    rw [String.ofList_nil, String.append_empty]
    rfl
  | cons c word ih =>
    have hrest := ih (fun other d hd ↦ h other d (List.mem_cons_of_mem c hd)) (read.push c)
    rw [scan_cons_of_silent (h read c List.mem_cons_self), hrest, String.ofList_cons,
      ← String.append_assoc, String.append_singleton]

end Lexer

/-! ## Taking tokens -/

namespace Construction

/-- The tree takes tokens one after the other, is done with each of them and stays in ordinary
content. -/
inductive Takes : Construction → List Token → Construction → Prop
  | nil {s : Construction} (ordinary : s.inForeign = false) : Takes s [] s
  | cons {s s' last : Construction} {token : Token} {tokens : List Token}
    (ordinary : s.inForeign = false) (done : s.accept token = s'.done)
    (rest : Takes s' tokens last) : Takes s (token :: tokens) last

variable {s s' last : Construction} {token : Token} {tokens more : List Token}

theorem Takes.inForeign (h : Takes s tokens last) : s.inForeign = false := by
  cases h <;> assumption

theorem Takes.inForeign_last (h : Takes s tokens last) : last.inForeign = false := by
  induction h <;> assumption

theorem Takes.append (h : Takes s tokens s') (hmore : Takes s' more last) :
    Takes s (tokens ++ more) last := by
  induction h with
  | nil => exact hmore
  | cons ordinary done _ ih => exact .cons ordinary done (ih hmore)

/-- Tokens that are taken together can be taken in two parts. -/
theorem Takes.of_append (h : Takes s (tokens ++ more) last) :
    ∃ s', Takes s tokens s' ∧ Takes s' more last := by
  induction tokens generalizing s with
  | nil => exact ⟨s, .nil h.inForeign, h⟩
  | cons token tokens ih =>
    cases h with
    | cons ordinary done rest =>
      obtain ⟨s', htokens, hmore⟩ := ih rest
      exact ⟨s', .cons ordinary done htokens, hmore⟩

theorem Takes.single (ordinary : s.inForeign = false) (done : s.accept token = s'.done)
    (ordinary' : s'.inForeign = false) : Takes s [token] s' := .cons ordinary done (.nil ordinary')

end Construction

/-! ## Reading -/

namespace Reading

open Construction (Takes)

variable {reading : Reading} {s : Construction} {c : Char} {text : List Char}
  {lexer : Lexer.State} {tokens : List Token}

/-- The tree is done with a token. -/
theorem take_of_done {token : Token} (hdone : reading.tree.accept token = s.done) :
    reading.take token = { reading with tree := s } := by
  unfold take
  rw [hdone]
  simp [Construction.done]

theorem foldl_take (h : Takes reading.tree tokens s) :
    tokens.foldl take reading = { reading with tree := s } := by
  induction tokens generalizing reading with
  | nil =>
    cases h
    rfl
  | cons token tokens ih =>
    cases h with
    | cons ordinary done rest => rw [List.foldl_cons, take_of_done done, ih rest]

/-- One character that counts. -/
theorem step_of_takes (hstep : Lexer.step false reading.lexer c = (lexer, tokens))
    (htakes : Takes reading.tree tokens s) :
    reading.step c = { reading with lexer, tree := s } := by
  rw [step, htakes.inForeign, hstep]
  exact foldl_take htakes

/-- One character that finishes a token, whatever content the tree goes on to. -/
theorem step_of_done {token : Token}
    (hstep : ∀ foreign, Lexer.step foreign reading.lexer c = (lexer, [token]))
    (hdone : reading.tree.accept token = s.done) :
    reading.step c = { reading with lexer, tree := s } := by
  rw [step, hstep]
  exact take_of_done hdone

/-- A byte order mark at the beginning of a portion changes nothing but the place. -/
theorem read_of_dropped (hscript : reading.afterScript = false)
    (h : (c = orderMark && reading.place.begins c) = true) :
    reading.read c = { reading with place := reading.place.advance c } := by
  rw [read, hscript, Bool.false_or]
  exact (if_pos h).trans (by cases reading; cases hscript; rfl)

/-- A character other than a line end is read at its place, unless it is dropped. -/
theorem read_of_not_dropped (hscript : reading.afterScript = false)
    (hreturn : reading.afterReturn = false) (hc : c ≠ '\r')
    (h : (c = orderMark && reading.place.begins c) = false) :
    reading.read c = { reading with place := reading.place.advance c }.step c := by
  rw [read, hscript, Bool.false_or]
  refine (if_neg (Bool.eq_false_iff.mp h)).trans ?_
  rw [readInLine, if_neg hc, hreturn, Bool.and_false, if_neg Bool.false_ne_true]

/-- A text is read by scanning what is kept of it and taking the tokens into the tree. -/
theorem foldl_read (hscript : reading.afterScript = false) (hreturn : reading.afterReturn = false)
    (htext : '\r' ∉ text)
    (hscan : Lexer.scan reading.lexer (reading.place.kept text) = (lexer, tokens))
    (htakes : Takes reading.tree tokens s) :
    text.foldl read reading =
      { reading with lexer, tree := s, place := reading.place.after text } := by
  induction text generalizing reading tokens with
  | nil =>
    obtain ⟨rfl, rfl⟩ := Prod.mk.inj hscan
    cases htakes
    rfl
  | cons c text ih =>
    have hc : c ≠ '\r' := fun heq ↦ htext (heq ▸ List.mem_cons_self)
    have htext' : '\r' ∉ text := fun hmem ↦ htext (List.mem_cons_of_mem c hmem)
    rw [List.foldl_cons]
    cases hdrop : decide (c = orderMark) && reading.place.begins c with
    | true =>
      rw [Place.kept_cons_of_dropped hdrop] at hscan
      rw [read_of_dropped hscript hdrop]
      exact ih hscript hreturn htext' hscan htakes
    | false =>
      rw [Place.kept_cons_of_not_dropped hdrop] at hscan
      obtain ⟨between, first, later, hstep, hscan', rfl⟩ := Lexer.exists_step_of_scan_cons hscan
      obtain ⟨s', hfirst, hrest⟩ := htakes.of_append
      have hread : reading.read c =
          { reading with lexer := between, tree := s', place := reading.place.advance c } :=
        (read_of_not_dropped hscript hreturn hc hdrop).trans (step_of_takes hstep hfirst)
      rw [hread]
      exact ih hscript hreturn htext' hscan' hrest

/-- The end of the text behind finished markup. -/
theorem finish_of_done (hlexer : reading.lexer = Lexer.resume)
    (hdone : reading.tree.accept .endOfText = s.done) : reading.finish = s := by
  rw [finish, hlexer]
  exact congrArg Outcome.state hdone

end Reading

/-- The nodes of a fragment are those in its root element. -/
theorem parse_eq_nodesIn {text : String} {reading : Reading} {s : Construction} {root : NodeId}
    (hread : text.toList.foldl Reading.read { tree := Construction.fragment } = reading)
    (hlexer : reading.lexer = Lexer.resume) (hdone : reading.tree.accept .endOfText = s.done)
    (hroot : s.dom.children Dom.document = [root]) : parse text = s.dom.nodesIn root := by
  have hconstruct : construct text true = s := by
    rw [construct]
    exact (congrArg Reading.finish hread).trans (Reading.finish_of_done hlexer hdone)
  rw [parse, hconstruct, if_pos rfl, hroot]

end MarkupIslands.Markup
