import MarkupIslands.Markup.Dom
import Mathlib.Data.List.Basic

/-!
# How a tree under construction grows

While a piece of ordinary markup is read, the table of nodes only gets longer, and only the node
that the piece stands in gets new children. `Dom.grow` says so in one step, growing twice is growing
once, and `Shows` tells which finished trees can be read off the new part of the table, whatever
else the table holds.
-/

namespace MarkupIslands.Markup

namespace Dom

variable {dom : Dom} {id parent : NodeId} {ids more : List NodeId} {cells later : List Cell}
  {content : Content} {c : Char}

theorem ext_getElem? {a b : Dom} (h : ∀ i : Nat, a.cells[i]? = b.cells[i]?) : a = b := by
  cases a
  cases b
  exact congrArg Dom.mk (Array.ext_getElem? h)

theorem getElem?_modify (dom : Dom) (id : NodeId) (i : Nat) (change : Cell → Cell) :
    (dom.modify id change).cells[i]? =
      if i = id then dom.cells[i]?.map change else dom.cells[i]? := by
  unfold modify
  split
  · rename_i cell hcell
    rw [Array.getElem?_setIfInBounds]
    by_cases hi : i = id
    · subst hi
      have hlt := (Array.getElem?_eq_some_iff.mp hcell).1
      rw [if_pos rfl, if_pos hlt, if_pos rfl, hcell]
      rfl
    · rw [if_neg hi, if_neg (Ne.symm hi)]
  · rename_i hnone
    split
    · rename_i hi
      rw [hi, hnone]
      rfl
    · rfl

theorem size_modify (dom : Dom) (id : NodeId) (change : Cell → Cell) :
    (dom.modify id change).size = dom.size := by
  unfold modify
  split
  · exact Array.size_setIfInBounds
  · rfl

theorem getElem?_add (dom : Dom) (content : Content) (i : Nat) :
    (dom.add content).cells[i]? = if i = dom.size then some ⟨content, []⟩ else dom.cells[i]? :=
  Array.getElem?_push

/-! ## Growing -/

/-- The document with new nodes in its table, some of which become the last children of a node. -/
def grow (dom : Dom) (parent : NodeId) (ids : List NodeId) (cells : List Cell) : Dom :=
  ⟨(dom.modify parent fun cell ↦ { cell with children := cell.children ++ ids }).cells ++
    cells.toArray⟩

/-- What grows is the table and one list of children; every other cell is kept. -/
theorem getElem?_grow (dom : Dom) (parent : NodeId) (i : Nat) (ids : List NodeId)
    (cells : List Cell) :
    (dom.grow parent ids cells).cells[i]? =
      if i < dom.size then
        if i = parent then dom.cells[i]?.map fun cell ↦
          { cell with children := cell.children ++ ids }
        else dom.cells[i]?
      else cells[i - dom.size]? := by
  have hsize := size_modify dom parent fun cell ↦ { cell with children := cell.children ++ ids }
  have hnew : cells.toArray[i - dom.size]? = cells[i - dom.size]? := List.getElem?_toArray ..
  rw [← hnew, ← getElem?_modify, ← hsize]
  exact Array.getElem?_append

@[simp]
theorem size_grow (dom : Dom) (parent : NodeId) (ids : List NodeId) (cells : List Cell) :
    (dom.grow parent ids cells).size = dom.size + cells.length := by
  have hsize := size_modify dom parent fun cell ↦ { cell with children := cell.children ++ ids }
  rw [← hsize]
  exact Array.size_append

theorem getElem?_eq_none_iff (dom : Dom) (i : Nat) : dom.cells[i]? = none ↔ dom.size ≤ i :=
  Array.getElem?_eq_none_iff

theorem grow_nil (dom : Dom) (parent : NodeId) : dom.grow parent [] [] = dom := by
  apply ext_getElem?
  intro i
  rw [getElem?_grow]
  split
  · split
    · simp
    · rfl
  · rename_i hi
    rw [(dom.getElem?_eq_none_iff i).mpr (by omega)]
    rfl

/-- Growing in the same place twice is growing once. -/
theorem grow_grow (hparent : parent < dom.size) :
    (dom.grow parent ids cells).grow parent more later =
      dom.grow parent (ids ++ more) (cells ++ later) := by
  apply ext_getElem?
  intro i
  rw [getElem?_grow, getElem?_grow, getElem?_grow, size_grow, List.getElem?_append]
  by_cases hold : i < dom.size
  · have hi : i < dom.size + cells.length := by omega
    simp only [if_pos hold, if_pos hi]
    split
    · simp [Function.comp_def]
    · rfl
  · have hne : i ≠ parent := fun heq ↦ hold (heq ▸ hparent)
    have hsub : i - (dom.size + cells.length) = i - dom.size - cells.length := by omega
    by_cases hnew : i < dom.size + cells.length
    · have hlt : i - dom.size < cells.length := by omega
      simp only [if_neg hold, if_pos hnew, if_neg hne, if_pos hlt]
    · have hge : ¬ i - dom.size < cells.length := by omega
      simp only [if_neg hold, if_neg hnew, if_neg hge, hsub]

/-- Growing inside a new node is putting the node there with its children. -/
theorem grow_grow_child (dom : Dom) (parent : NodeId) (content : Content) (ids : List NodeId)
    (cells : List Cell) :
    (dom.grow parent [dom.size] [⟨content, []⟩]).grow dom.size ids cells =
      dom.grow parent [dom.size] (⟨content, ids⟩ :: cells) := by
  apply ext_getElem?
  intro i
  rw [getElem?_grow, getElem?_grow, getElem?_grow, size_grow, List.length_singleton]
  rcases Nat.lt_trichotomy i dom.size with hlt | heq | hgt
  · have hi : i < dom.size + 1 := by omega
    have hne : i ≠ dom.size := by omega
    simp only [if_pos hlt, if_pos hi, if_neg hne]
  · subst heq
    simp
  · have hi : ¬ i < dom.size + 1 := by omega
    have hold : ¬ i < dom.size := by omega
    have hsub : i - dom.size = i - (dom.size + 1) + 1 := by omega
    simp only [if_neg hi, if_neg hold]
    rw [hsub, List.getElem?_cons_succ]

/-- Putting a new node behind the children of a node. -/
theorem put_add (hparent : parent < dom.size) (content : Content) :
    (dom.add content).put (.lastIn parent) dom.size =
      dom.grow parent [dom.size] [⟨content, []⟩] := by
  apply ext_getElem?
  intro i
  rw [put, append, getElem?_modify, getElem?_add, getElem?_grow]
  rcases Nat.lt_trichotomy i dom.size with hlt | heq | hgt
  · have hne : i ≠ dom.size := by omega
    simp only [if_pos hlt, if_neg hne]
  · subst heq
    have hne : dom.size ≠ parent := Nat.ne_of_gt hparent
    simp [hne]
  · have hne : i ≠ dom.size := by omega
    have hne' : i ≠ parent := Nat.ne_of_gt (Nat.lt_trans hparent hgt)
    have hold : ¬ i < dom.size := by omega
    have hsub : i - dom.size = i - (dom.size + 1) + 1 := by omega
    rw [if_neg hne', if_neg hne, if_neg hold, hsub, List.getElem?_cons_succ,
      (dom.getElem?_eq_none_iff i).mpr (by omega)]
    rfl

/-! ## What stays as it is -/

theorem content?_grow (hid : id < dom.size) (parent : NodeId) (ids : List NodeId)
    (cells : List Cell) : (dom.grow parent ids cells).content? id = dom.content? id := by
  rw [content?, content?, getElem?_grow, if_pos hid]
  split
  · rw [Option.map_map]
    rfl
  · rfl

theorem contents?_grow (hid : id < dom.size) (parent : NodeId) (ids : List NodeId)
    (cells : List Cell) : (dom.grow parent ids cells).contents? id = dom.contents? id := by
  rw [contents?, contents?, content?_grow hid]

theorem content?_grow_new (dom : Dom) (parent : NodeId) (ids children : List NodeId)
    (content : Content) (cells : List Cell) :
    (dom.grow parent ids (⟨content, children⟩ :: cells)).content? dom.size = some content := by
  simp [content?, getElem?_grow]

theorem children_grow (hparent : parent < dom.size) (ids : List NodeId) (cells : List Cell) :
    (dom.grow parent ids cells).children parent = dom.children parent ++ ids := by
  have hsome : dom.cells[parent]? ≠ none :=
    fun h ↦ Nat.not_le_of_lt hparent ((dom.getElem?_eq_none_iff parent).mp h)
  obtain ⟨cell, hcell⟩ := Option.ne_none_iff_exists'.mp hsome
  simp [children, getElem?_grow, hparent, hcell]

theorem children_grow_of_ne (hid : id < dom.size) (hne : id ≠ parent) (ids : List NodeId)
    (cells : List Cell) : (dom.grow parent ids cells).children id = dom.children id := by
  rw [Dom.children, Dom.children, getElem?_grow, if_pos hid, if_neg hne]

theorem children_grow_new (dom : Dom) (parent : NodeId) (ids children : List NodeId)
    (content : Content) (cells : List Cell) :
    (dom.grow parent ids (⟨content, children⟩ :: cells)).children dom.size = children := by
  simp [Dom.children, getElem?_grow]

theorem neighbour?_grow_single (hparent : parent < dom.size) (id : NodeId) (cells : List Cell) :
    (dom.grow parent [id] cells).neighbour? (.lastIn parent) = some id := by
  rw [neighbour?, children_grow hparent, List.getLast?_concat]

/-! ## Texts -/

def NoTextBefore (dom : Dom) (place : Place) : Prop :=
  ∀ id value, dom.neighbour? place = some id → dom.content? id ≠ some (.text value)

theorem noTextBefore_of_children_eq_nil (h : dom.children parent = []) :
    dom.NoTextBefore (.lastIn parent) := by
  intro id value hid
  rw [neighbour?, h] at hid
  cases hid

theorem noTextBefore_grow (hparent : parent < dom.size) (hcontent : ∀ value, content ≠ .text value)
    (children : List NodeId) (cells : List Cell) :
    (dom.grow parent [dom.size] (⟨content, children⟩ :: cells)).NoTextBefore (.lastIn parent) := by
  intro id value hid
  rw [neighbour?_grow_single hparent, Option.some.injEq] at hid
  subst hid
  rw [content?_grow_new]
  exact fun h ↦ hcontent value (Option.some.inj h)

/-- A character with no text before it begins a text. -/
theorem putChar_of_noTextBefore (hparent : parent < dom.size)
    (h : dom.NoTextBefore (.lastIn parent)) (c : Char) :
    dom.putChar (.lastIn parent) c =
      dom.grow parent [dom.size] [⟨.text (String.singleton c), []⟩] := by
  rw [← put_add hparent]
  unfold putChar
  rcases hid : dom.neighbour? (.lastIn parent) with _ | id
  · rfl
  · rcases hcontent : dom.content? id with _ | content
    · simp [hcontent]
    · cases content with
      | text value => exact absurd hcontent (h id value hid)
      | container | element | comment | doctype => simp [hcontent]

/-- A later character joins the text. -/
theorem putChar_grow_text (hparent : parent < dom.size) (value : String) (c : Char) :
    (dom.grow parent [dom.size] [⟨.text value, []⟩]).putChar (.lastIn parent) c =
      dom.grow parent [dom.size] [⟨.text (value.push c), []⟩] := by
  have hjoined : (dom.grow parent [dom.size] [⟨.text value, []⟩]).putChar (.lastIn parent) c =
      (dom.grow parent [dom.size] [⟨.text value, []⟩]).modify dom.size
        fun cell ↦ { cell with content := .text (value.push c) } := by
    unfold putChar
    simp [neighbour?_grow_single hparent, content?_grow_new]
  rw [hjoined]
  apply ext_getElem?
  intro i
  rw [getElem?_modify, getElem?_grow, getElem?_grow]
  rcases Nat.lt_trichotomy i dom.size with hlt | heq | hgt
  · have hne : i ≠ dom.size := by omega
    simp only [if_pos hlt, if_neg hne]
  · subst heq
    simp
  · have hne : i ≠ dom.size := by omega
    have hold : ¬ i < dom.size := by omega
    have hsub : i - dom.size = i - (dom.size + 1) + 1 := by omega
    rw [if_neg hne, if_neg hold, if_neg hold, hsub, List.getElem?_cons_succ,
      List.getElem?_cons_succ]

/-! ## Reading the new part of the table -/

/-- Some nodes stand in the table from an identity on. -/
def Carries (dom : Dom) (start : NodeId) (cells : List Cell) : Prop :=
  ∀ i cell, cells[i]? = some cell → dom.cells[start + i]? = some cell

variable {start : NodeId} {cell : Cell}

theorem Carries.head (h : dom.Carries start (cell :: cells)) : dom.cells[start]? = some cell :=
  h 0 cell rfl

theorem Carries.tail (h : dom.Carries start (cell :: cells)) :
    dom.Carries (start + 1) cells := by
  intro i other hother
  have hcell := h (i + 1) other hother
  rwa [Nat.add_comm i, ← Nat.add_assoc] at hcell

theorem Carries.left (h : dom.Carries start (cells ++ later)) : dom.Carries start cells := by
  intro i other hother
  have hlt := (List.getElem?_eq_some_iff.mp hother).1
  exact h i other ((List.getElem?_append_left hlt).trans hother)

theorem Carries.right (h : dom.Carries start (cells ++ later)) :
    dom.Carries (start + cells.length) later := by
  intro i other hother
  have hcell := h (cells.length + i) other (by rwa [List.getElem?_append_right (by omega),
    Nat.add_sub_cancel_left])
  rwa [← Nat.add_assoc] at hcell

/-- The new nodes of a grown document stand behind the old ones. -/
theorem carries_grow (dom : Dom) (parent : NodeId) (ids : List NodeId) (cells : List Cell) :
    (dom.grow parent ids cells).Carries dom.size cells := by
  intro i other hother
  have hnew : ¬ dom.size + i < dom.size := by omega
  rw [getElem?_grow, if_neg hnew, Nat.add_sub_cancel_left]
  exact hother

end Dom

/-- Wherever some nodes stand in a table from an identity on, given ones among them are read as
given trees. -/
def Shows (start : NodeId) (ids : List NodeId) (cells : List Cell) (nodes : List Node) : Prop :=
  ∀ dom depth, Dom.Carries dom start cells → cells.length ≤ depth →
    ids.filterMap (dom.node? depth) = nodes

namespace Shows

variable {start : NodeId} {ids more : List NodeId} {cells later : List Cell}
  {nodes others : List Node}

theorem nil (start : NodeId) : Shows start [] [] [] := fun _ _ _ _ ↦ rfl

theorem append (h : Shows start ids cells nodes)
    (hmore : Shows (start + cells.length) more later others) :
    Shows start (ids ++ more) (cells ++ later) (nodes ++ others) := by
  intro dom depth hcarries hdepth
  rw [List.length_append] at hdepth
  rw [List.filterMap_append, h dom depth hcarries.left (by omega),
    hmore dom depth hcarries.right (by omega)]

theorem text (start : NodeId) (value : String) :
    Shows start [start] [⟨.text value, []⟩] [.text value] := by
  intro dom depth hcarries hdepth
  obtain ⟨depth, rfl⟩ : ∃ d, depth = d + 1 := ⟨depth - 1, by simp at hdepth; omega⟩
  have hnode : dom.node? (depth + 1) start = some (.text value) := by
    rw [Dom.node?, hcarries.head]
  rw [List.filterMap_cons, hnode]
  rfl

theorem comment (start : NodeId) (value : String) :
    Shows start [start] [⟨.comment value, []⟩] [.comment value] := by
  intro dom depth hcarries hdepth
  obtain ⟨depth, rfl⟩ : ∃ d, depth = d + 1 := ⟨depth - 1, by simp at hdepth; omega⟩
  have hnode : dom.node? (depth + 1) start = some (.comment value) := by
    rw [Dom.node?, hcarries.head]
  rw [List.filterMap_cons, hnode]
  rfl

/-- An element is read with what its children are read as. -/
theorem element (h : Shows (start + 1) ids cells nodes) (name : ElementName)
    (attributes : List Attribute) :
    Shows start [start] (⟨.element name attributes none, ids⟩ :: cells)
      [.element name.tag (.ofList (attributes.map Attribute.entry)) nodes] := by
  intro dom depth hcarries hdepth
  rw [List.length_cons] at hdepth
  obtain ⟨depth, rfl⟩ : ∃ d, depth = d + 1 := ⟨depth - 1, by omega⟩
  have hchildren := h dom depth hcarries.tail (by omega)
  have hnode : dom.node? (depth + 1) start =
      some (.element name.tag (.ofList (attributes.map Attribute.entry)) nodes) := by
    rw [Dom.node?, hcarries.head]
    exact congrArg (fun nodes ↦ some (Node.element _ _ nodes)) hchildren
  rw [List.filterMap_cons, hnode]
  rfl

/-- The trees inside a node that had no children before it grew. -/
theorem nodesIn_grow {dom : Dom} {parent : NodeId} (hparent : parent < dom.size)
    (hempty : dom.children parent = []) (h : Shows dom.size ids cells nodes) :
    (dom.grow parent ids cells).nodesIn parent = nodes := by
  rw [Dom.nodesIn, Dom.children_grow hparent, hempty, List.nil_append]
  exact h _ _ (Dom.carries_grow dom parent ids cells) (by rw [Dom.size_grow]; omega)

end Shows

end MarkupIslands.Markup
