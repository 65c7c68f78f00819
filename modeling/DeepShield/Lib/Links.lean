import Mathlib.Data.List.Basic
import Mathlib.Data.List.Nodup
import Mathlib.Logic.Function.Basic
import Mathlib.Tactic.Common

/-!
# Doubly linked lists

Nodes of a type `α` with a successor and a predecessor each, as two functions
(`Links`), and a null node. `Linked b l e` says that the nodes of `l` are linked
in this order, the first one back to `b` and the last one on to `e`. Between null
and null that is a whole list; between two nodes it is a segment of one, and
`linked_append` cuts lists into segments.

The operations are the pointer assignments that C code makes: unlinking a node,
pushing one in front, inserting one behind another, removing what is between two
nodes, and putting a node in another's place. Each has a lemma that says which
list is linked afterwards.

`Lists` is a family of lists that share the two functions, as where a node is on
one list at a time and its two fields serve whichever it is on. What keeps the
other lists linked when one changes are the lemmas that say which nodes an
assignment leaves alone (`unlink_frame`, `push_frame`).
-/

namespace DeepShield.Lib

variable {α : Type}

/-- Successor and predecessor of each node. -/
structure Links (α : Type) where
  next : α → α
  prev : α → α

namespace Links

/-- The nodes of `l` are linked in order, from `b` to `e`. -/
def Linked (k : Links α) : α → List α → α → Prop
  | _, [], _ => True
  | b, x :: l, e => k.prev x = b ∧ k.next x = l.headD e ∧ k.Linked x l e

/-! ## Segments -/

section Segments

variable {k k' : Links α} {b e : α} {l : List α}

theorem linked_append {l₁ l₂ : List α} : k.Linked b (l₁ ++ l₂) e ↔
    k.Linked b l₁ (l₂.headD e) ∧ k.Linked (l₁.getLastD b) l₂ e := by
  induction l₁ generalizing b with
  | nil => exact (and_iff_right trivial).symm
  | cons x l₁ ih =>
    have hhead : (l₁ ++ l₂).headD e = l₁.headD (l₂.headD e) := by
      cases l₁ with
      | nil => rfl
      | cons y l₁ => rfl
    have hlast : (x :: l₁).getLastD b = l₁.getLastD x := by
      rw [List.getLastD_cons]
    rw [List.cons_append, Linked, Linked, ih, hhead, hlast, and_assoc, and_assoc]

/-- Only the links of the nodes of `l` matter. -/
theorem Linked.congr (h : k.Linked b l e) (hnext : ∀ x ∈ l, k'.next x = k.next x)
    (hprev : ∀ x ∈ l, k'.prev x = k.prev x) : k'.Linked b l e := by
  induction l generalizing b with
  | nil => trivial
  | cons x l ih =>
    refine ⟨(hprev x List.mem_cons_self).trans h.1, (hnext x List.mem_cons_self).trans h.2.1, ?_⟩
    exact ih h.2.2 (fun y hy => hnext y (List.mem_cons_of_mem x hy))
      (fun y hy => hprev y (List.mem_cons_of_mem x hy))

/-- A segment whose last node goes on elsewhere. -/
theorem Linked.changeEnd [DecidableEq α] {e' : α} (h : k.Linked b l e) (hnodup : l.Nodup)
    (hnext : ∀ x ∈ l, k'.next x = if x = l.getLastD b then e' else k.next x)
    (hprev : ∀ x ∈ l, k'.prev x = k.prev x) : k'.Linked b l e' := by
  induction l generalizing b with
  | nil => trivial
  | cons x l ih =>
    obtain ⟨hx, hnodup⟩ := List.nodup_cons.mp hnodup
    have hhere := hnext x List.mem_cons_self
    rw [List.getLastD_cons] at hnext hhere
    refine ⟨(hprev x List.mem_cons_self).trans h.1, ?_, ?_⟩
    · cases l with
      | nil => rwa [List.getLastD_nil, if_pos rfl] at hhere
      | cons y l =>
        have hne : x ≠ (y :: l).getLastD x := by
          intro heq
          rw [List.getLastD_eq_getLast?, List.getLast?_eq_some_getLast (by simp)] at heq
          exact hx (heq ▸ List.getLast_mem _)
        rw [if_neg hne] at hhere
        exact hhere.trans h.2.1
    · exact ih h.2.2 hnodup (fun y hy => hnext y (List.mem_cons_of_mem x hy))
        (fun y hy => hprev y (List.mem_cons_of_mem x hy))

/-- A segment whose first node is reached from elsewhere. -/
theorem Linked.changeStart {b' : α} {x : α} (h : k.Linked b (x :: l) e)
    (hfirst : k'.prev x = b') (hnext : ∀ y ∈ x :: l, k'.next y = k.next y)
    (hprev : ∀ y ∈ l, k'.prev y = k.prev y) : k'.Linked b' (x :: l) e := by
  refine ⟨hfirst, (hnext x List.mem_cons_self).trans h.2.1, ?_⟩
  exact h.2.2.congr (fun y hy => hnext y (List.mem_cons_of_mem x hy)) hprev

/-- The successor of a node is the end or a node. -/
theorem Linked.next_mem (h : k.Linked b l e) {x : α} (hx : x ∈ l) :
    k.next x = e ∨ k.next x ∈ l := by
  induction l generalizing b with
  | nil => exact absurd hx (by simp)
  | cons y l ih =>
    rcases List.mem_cons.mp hx with rfl | hx
    · cases l with
      | nil => exact Or.inl h.2.1
      | cons z l =>
        right
        rw [h.2.1]
        simp
    · rcases ih h.2.2 hx with hend | hmem
      · exact Or.inl hend
      · exact Or.inr (List.mem_cons_of_mem y hmem)

/-- The predecessor of a node is the start or a node. -/
theorem Linked.prev_mem (h : k.Linked b l e) {x : α} (hx : x ∈ l) :
    k.prev x = b ∨ k.prev x ∈ l := by
  induction l generalizing b with
  | nil => exact absurd hx (by simp)
  | cons y l ih =>
    rcases List.mem_cons.mp hx with rfl | hx
    · exact Or.inl h.1
    · right
      rcases ih h.2.2 hx with hstart | hmem
      · rw [hstart]
        exact List.mem_cons_self
      · exact List.mem_cons_of_mem y hmem

/-- No node of a list without repetitions follows itself. -/
theorem Linked.next_ne (h : k.Linked b l e) (hnodup : l.Nodup) {x : α} (hx : x ∈ l) (he : e ∉ l) :
    k.next x ≠ x := by
  intro heq
  obtain ⟨l₁, l₂, hsplit⟩ := List.append_of_mem hx
  rw [hsplit] at h hnodup he
  obtain ⟨_, _, hnext, _⟩ := linked_append.mp h
  rw [heq] at hnext
  cases l₂ with
  | nil => exact he (hnext ▸ by simp)
  | cons y l₂ =>
    have hxy : x = y := hnext
    exact (List.nodup_cons.mp (List.nodup_append.mp hnodup).2.1).1 (hxy ▸ List.mem_cons_self)

/-- The neighbours of a node. -/
theorem Linked.neighbours {l₁ l₂ : List α} {x : α} (h : k.Linked b (l₁ ++ x :: l₂) e) :
    k.prev x = l₁.getLastD b ∧ k.next x = l₂.headD e := by
  obtain ⟨_, hprev, hnext, _⟩ := linked_append.mp h
  exact ⟨hprev, hnext⟩

end Segments

/-! ## Paths -/

section Path

variable {next next' : α → α} {x y e : α} {l : List α}

/-- Following `next` from a node leads through those of `l` to `e`. -/
def Path (next : α → α) : α → List α → α → Prop
  | x, [], e => x = e
  | x, y :: l, e => x = y ∧ Path next (next y) l e

/-- Only the successors of the nodes of `l` matter. -/
theorem Path.congr (h : Path next x l e) (hnext : ∀ y ∈ l, next' y = next y) :
    Path next' x l e := by
  induction l generalizing x with
  | nil => exact h
  | cons y l ih =>
    refine ⟨h.1, ?_⟩
    rw [hnext y List.mem_cons_self]
    exact ih h.2 fun z hz => hnext z (List.mem_cons_of_mem y hz)

/-- A path starts at its first node. -/
theorem Path.start (h : Path next x l e) : x = l.headD e := by
  cases l with
  | nil => exact h
  | cons y l => exact h.1

/-- One more node in front. -/
theorem Path.cons (h : Path next x l e) (hy : next y = x) : Path next y (y :: l) e :=
  ⟨rfl, hy ▸ h⟩

/-- Nodes may go by other names. -/
theorem path_map {β : Type} {name : α → β} {named : β → β} (hinj : Function.Injective name)
    (hnext : ∀ x, named (name x) = name (next x)) :
    Path named (name x) (l.map name) (name e) ↔ Path next x l e := by
  induction l generalizing x with
  | nil => exact hinj.eq_iff
  | cons y l ih =>
    show name x = name y ∧ Path named (named (name y)) (l.map name) (name e) ↔ _
    rw [hinj.eq_iff, hnext, ih]
    rfl

/-- Following the successors of a segment leads through its nodes. -/
theorem Linked.path {k : Links α} {b : α} (h : k.Linked b l e) :
    Path k.next (l.headD e) l e := by
  induction l generalizing b with
  | nil => rfl
  | cons x l ih => exact ⟨rfl, h.2.1 ▸ ih h.2.2⟩

end Path

/-! ## Walking a list -/

section Walk

variable [DecidableEq α]

/-- The nodes met from `x` on, at most `fuel` of them. -/
def walk (next : α → α) (null : α) : Nat → α → List α
  | 0, _ => []
  | fuel + 1, x => if x = null then [] else x :: walk next null fuel (next x)

/-- Walking a linked list visits it. -/
theorem Linked.walk_eq {k : Links α} {null : α} :
    ∀ {l : List α} {b : α} {fuel : Nat}, k.Linked b l null → null ∉ l → l.length ≤ fuel →
      walk k.next null fuel (l.headD null) = l := by
  intro l
  induction l with
  | nil =>
    intro b fuel _ _ _
    cases fuel with
    | zero => rfl
    | succ fuel => simp [walk]
  | cons x l ih =>
    intro b fuel h hnull hfuel
    obtain ⟨hx, hnull⟩ := List.ne_and_not_mem_of_not_mem_cons hnull
    cases fuel with
    | zero => exact absurd hfuel (by simp)
    | succ fuel =>
      rw [List.headD_cons, walk, if_neg (Ne.symm hx), h.2.1,
        ih h.2.2 hnull (Nat.le_of_succ_le_succ hfuel)]

end Walk

/-! ## Assignments -/

section Assignments

variable [DecidableEq α]

/-- `x.next = y`. -/
def setNext (k : Links α) (x y : α) : Links α := { k with next := Function.update k.next x y }

/-- `x.prev = y`. -/
def setPrev (k : Links α) (x y : α) : Links α := { k with prev := Function.update k.prev x y }

/-- Take `x` out of its list. -/
def unlink (k : Links α) (null x : α) : Links α :=
  let k := if k.next x = null then k else k.setPrev (k.next x) (k.prev x)
  if k.prev x = null then k else k.setNext (k.prev x) (k.next x)

/-- Put `x` in front of the list that starts with `head`. -/
def push (k : Links α) (null head x : α) : Links α :=
  let k := (k.setNext x head).setPrev x null
  if head = null then k else k.setPrev head x

/-- Put `y` behind `x`. -/
def insertAfter (k : Links α) (null x y : α) : Links α :=
  let k := k.setPrev y x
  let k := k.setNext y (k.next x)
  let k := if k.next x = null then k else k.setPrev (k.next x) y
  k.setNext x y

/-- Let `z` follow on `x`. -/
def joinAfter (k : Links α) (null x z : α) : Links α :=
  let k := k.setNext x z
  if z = null then k else k.setPrev z x

/-- Put `y` in the place of `x`, which has a predecessor. -/
def replace (k : Links α) (null x y : α) : Links α :=
  let k := if k.next x = null then k else k.setPrev (k.next x) y
  let k := k.setNext (k.prev x) y
  let next := k.next x
  let prev := k.prev x
  (k.setNext y next).setPrev y prev

variable {k : Links α} {null : α}

@[simp] theorem setNext_next (x y z : α) :
    (k.setNext x y).next z = if z = x then y else k.next z := by
  simp [setNext, Function.update_apply]

@[simp] theorem setNext_prev (x y : α) : (k.setNext x y).prev = k.prev := rfl

@[simp] theorem setPrev_prev (x y z : α) :
    (k.setPrev x y).prev z = if z = x then y else k.prev z := by
  simp [setPrev, Function.update_apply]

@[simp] theorem setPrev_next (x y : α) : (k.setPrev x y).next = k.next := rfl

/-- Unlinking changes one successor. -/
theorem unlink_next (x y : α) : (k.unlink null x).next y
    = if y = k.prev x ∧ k.prev x ≠ null then k.next x else k.next y := by
  unfold unlink
  by_cases hnext : k.next x = null
  · by_cases hprev : k.prev x = null
    · simp [hnext, hprev]
    · by_cases hy : y = k.prev x
      · simp [hnext, hprev, hy]
      · simp [hnext, hprev, hy]
  · by_cases hprev : k.prev x = null
    · simp [hnext, hprev]
    · by_cases hy : y = k.prev x
      · simp [hnext, hprev, hy]
      · simp [hnext, hprev, hy]

/-- And one predecessor. -/
theorem unlink_prev (x y : α) : (k.unlink null x).prev y
    = if y = k.next x ∧ k.next x ≠ null then k.prev x else k.prev y := by
  unfold unlink
  by_cases hnext : k.next x = null
  · by_cases hprev : k.prev x = null
    · simp [hnext, hprev]
    · simp [hnext, hprev]
  · by_cases hprev : k.prev x = null
    · by_cases hy : y = k.next x
      · simp [hnext, hprev, hy]
      · simp [hnext, hprev, hy]
    · by_cases hy : y = k.next x
      · simp [hnext, hprev, hy]
      · simp [hnext, hprev, hy]

theorem push_next (head x y : α) :
    (k.push null head x).next y = if y = x then head else k.next y := by
  unfold push
  by_cases hhead : head = null
  · simp [hhead]
  · simp [hhead]

theorem push_prev (head x y : α) : (k.push null head x).prev y
    = if y = head ∧ head ≠ null then x else if y = x then null else k.prev y := by
  unfold push
  by_cases hhead : head = null
  · simp [hhead]
  · simp [hhead]

theorem insertAfter_next {x y : α} (hne : x ≠ y) (z : α) : (k.insertAfter null x y).next z
    = if z = x then y else if z = y then k.next x else k.next z := by
  unfold insertAfter
  by_cases hnext : k.next x = null
  · simp [hne, hnext]
  · simp [hne, hnext]

theorem insertAfter_prev {x y : α} (hne : x ≠ y) (z : α) : (k.insertAfter null x y).prev z
    = if z = k.next x ∧ k.next x ≠ null then y else if z = y then x else k.prev z := by
  unfold insertAfter
  by_cases hnext : k.next x = null
  · simp [hne, hnext]
  · simp [hne, hnext]

theorem joinAfter_next (x z y : α) :
    (k.joinAfter null x z).next y = if y = x then z else k.next y := by
  unfold joinAfter
  by_cases hz : z = null
  · simp [hz]
  · simp [hz]

theorem joinAfter_prev (x z y : α) :
    (k.joinAfter null x z).prev y = if y = z ∧ z ≠ null then x else k.prev y := by
  unfold joinAfter
  by_cases hz : z = null
  · simp [hz]
  · simp [hz]

theorem replace_next {x y : α} (hprev : k.prev x ≠ x) (hnext : k.next x ≠ x) (z : α) :
    (k.replace null x y).next z
      = if z = y then k.next x else if z = k.prev x then y else k.next z := by
  unfold replace
  by_cases hnull : k.next x = null
  · simp [hnull, Ne.symm hprev]
  · simp [hnull, Ne.symm hprev, Ne.symm hnext]

theorem replace_prev {x y : α} (hnext : k.next x ≠ x) (z : α) :
    (k.replace null x y).prev z = if z = y then k.prev x
      else if z = k.next x ∧ k.next x ≠ null then y else k.prev z := by
  unfold replace
  by_cases hnull : k.next x = null
  · simp [hnull]
  · simp [hnull, Ne.symm hnext]

end Assignments

/-! ## What the assignments do to lists -/

/-- A node of a list without repetitions is in neither part around it, and the
parts share nothing. -/
theorem nodup_around {l₁ l₂ : List α} {x : α} (h : (l₁ ++ x :: l₂).Nodup) :
    x ∉ l₁ ∧ x ∉ l₂ ∧ l₁.Nodup ∧ ∀ y ∈ l₁, y ∉ l₂ := by
  obtain ⟨hl₁, hrest, hdisjoint⟩ := List.nodup_append.mp h
  refine ⟨fun hx => hdisjoint x hx x List.mem_cons_self rfl, (List.nodup_cons.mp hrest).1, hl₁, ?_⟩
  intro y hy hy₂
  exact hdisjoint y hy y (List.mem_cons_of_mem x hy₂) rfl

/-- The head of a list is null or a node. -/
theorem headD_mem (l : List α) (null : α) : l.headD null = null ∨ l.headD null ∈ l := by
  cases l with
  | nil => exact Or.inl rfl
  | cons x l => exact Or.inr List.mem_cons_self

/-- So is the last node. -/
theorem getLastD_mem (l : List α) (null : α) : l.getLastD null = null ∨ l.getLastD null ∈ l := by
  cases l with
  | nil => exact Or.inl rfl
  | cons x l =>
    right
    rw [List.getLastD_eq_getLast?, List.getLast?_eq_some_getLast (by simp)]
    exact List.getLast_mem _

/-- No node of a list without repetitions comes before itself. -/
theorem Linked.prev_ne {k : Links α} {b e x : α} {l : List α} (h : k.Linked b l e)
    (hnodup : l.Nodup) (hx : x ∈ l) (hb : b ∉ l) : k.prev x ≠ x := by
  intro heq
  obtain ⟨l₁, l₂, hsplit⟩ := List.append_of_mem hx
  rw [hsplit] at h hnodup
  rw [h.neighbours.1] at heq
  rcases getLastD_mem l₁ b with hstart | hmem
  · exact hb ((hstart.symm.trans heq) ▸ hx)
  · exact (nodup_around hnodup).1 (heq ▸ hmem)

/-- **The ring**: if the null node leads to the first node and back to the last one,
successor and predecessor are inverse to each other. -/
theorem Linked.ring {k : Links α} {null x : α} {l : List α} (h : k.Linked null l null)
    (hfirst : k.next null = l.headD null) (hlast : k.prev null = l.getLastD null)
    (hx : x ∈ null :: l) : k.prev (k.next x) = x ∧ k.next (k.prev x) = x := by
  rcases List.mem_cons.mp hx with rfl | hx
  · constructor
    · rw [hfirst]
      cases l with
      | nil => exact hlast
      | cons y l => exact h.1
    · rw [hlast]
      rcases List.eq_nil_or_concat' l with rfl | ⟨l, y, rfl⟩
      · exact hfirst
      · rw [List.getLastD_concat]
        exact h.neighbours.2
  · obtain ⟨l₁, l₂, rfl⟩ := List.append_of_mem hx
    obtain ⟨hprev, hnext⟩ := h.neighbours
    rw [hprev, hnext]
    constructor
    · cases l₂ with
      | nil => rw [List.headD_nil, hlast, List.getLastD_concat]
      | cons y l₂ =>
        have hy : k.prev y = (l₁ ++ [x]).getLastD null :=
          (show k.Linked null ((l₁ ++ [x]) ++ y :: l₂) null by simpa using h).neighbours.1
        rw [List.headD_cons, hy, List.getLastD_concat]
    · rcases List.eq_nil_or_concat' l₁ with rfl | ⟨l₁, y, rfl⟩
      · exact hfirst
      · have hy : k.next y = (x :: l₂).headD null :=
          (show k.Linked null (l₁ ++ y :: (x :: l₂)) null by simpa using h).neighbours.2
        rw [List.getLastD_concat, hy, List.headD_cons]

section Lists

variable [DecidableEq α] {k : Links α} {null : α} {l l₁ l₂ : List α} {x y : α}

/-- **Unlinking** a node links the parts around it. -/
theorem Linked.unlink (h : k.Linked null (l₁ ++ x :: l₂) null) (hnodup : (l₁ ++ x :: l₂).Nodup)
    (hnull : null ∉ l₁ ++ x :: l₂) : (k.unlink null x).Linked null (l₁ ++ l₂) null := by
  obtain ⟨hprev, hnext⟩ := h.neighbours
  obtain ⟨hx₁, hx₂, hl₁, hdisjoint⟩ := nodup_around hnodup
  obtain ⟨hfirst, _, _, hsecond⟩ := linked_append.mp h
  refine linked_append.mpr ⟨hfirst.changeEnd hl₁ ?_ ?_, ?_⟩
  · intro y hy
    have hne : y ≠ null := fun heq => hnull (heq ▸ List.mem_append_left _ hy)
    rw [unlink_next, hprev, hnext]
    by_cases hlast : y = l₁.getLastD null
    · rw [if_pos ⟨hlast, hlast ▸ hne⟩, if_pos hlast]
    · rw [if_neg (fun hk => hlast hk.1), if_neg hlast]
  · intro y hy
    rw [unlink_prev, hnext, if_neg]
    intro ⟨heq, hne⟩
    rcases headD_mem l₂ null with hz | hmem
    · exact hne hz
    · exact hdisjoint y hy (heq ▸ hmem)
  · have hkeep : ∀ y ∈ l₂, (k.unlink null x).next y = k.next y := by
      intro y hy
      rw [unlink_next, hprev, if_neg]
      intro ⟨heq, hne⟩
      rcases getLastD_mem l₁ null with hz | hmem
      · exact hne hz
      · exact hdisjoint y (heq ▸ hmem) hy
    cases l₂ with
    | nil => trivial
    | cons z l₂ =>
      have hz : z ≠ null := fun heq => hnull (heq ▸ by simp)
      refine hsecond.changeStart ?_ hkeep ?_
      · rw [unlink_prev, hnext, List.headD_cons, if_pos ⟨rfl, hz⟩, hprev]
      · intro y hy
        rw [unlink_prev, hnext, List.headD_cons, if_neg]
        intro ⟨heq, _⟩
        have hsub : (z :: l₂).Nodup := (List.nodup_cons.mp (List.nodup_append.mp hnodup).2.1).2
        exact (List.nodup_cons.mp hsub).1 (heq ▸ hy)

/-- Unlinking leaves the nodes of other lists alone. -/
theorem Linked.unlink_frame (h : k.Linked null l null) (hx : x ∈ l) (hy : y ∉ l) :
    (k.unlink null x).next y = k.next y ∧ (k.unlink null x).prev y = k.prev y := by
  constructor
  · rw [unlink_next, if_neg]
    intro ⟨heq, hne⟩
    rcases h.prev_mem hx with hnull | hmem
    · exact hne hnull
    · exact hy (heq ▸ hmem)
  · rw [unlink_prev, if_neg]
    intro ⟨heq, hne⟩
    rcases h.next_mem hx with hnull | hmem
    · exact hne hnull
    · exact hy (heq ▸ hmem)

/-- **Pushing** a new node. -/
theorem Linked.push (h : k.Linked null l null) (hnodup : l.Nodup) (hnull : null ∉ l)
    (hx : x ∉ l) :
    (k.push null (l.headD null) x).Linked null (x :: l) null := by
  have hnext : ∀ y ∈ l, (k.push null (l.headD null) x).next y = k.next y := by
    intro y hy
    rw [push_next, if_neg (ne_of_mem_of_not_mem hy hx)]
  refine ⟨?_, ?_, ?_⟩
  · rw [push_prev, if_neg, if_pos rfl]
    intro ⟨heq, hhead⟩
    rcases headD_mem l null with hz | hmem
    · exact hhead hz
    · exact hx (heq ▸ hmem)
  · rw [push_next, if_pos rfl]
  · cases l with
    | nil => trivial
    | cons z l =>
      have hz : z ≠ null := fun heq => hnull (heq ▸ List.mem_cons_self)
      refine h.changeStart ?_ hnext ?_
      · rw [push_prev, List.headD_cons, if_pos ⟨rfl, hz⟩]
      · intro y hy
        have hyz : y ≠ z := fun heq => (List.nodup_cons.mp hnodup).1 (heq ▸ hy)
        have hyx : y ≠ x := fun heq => hx (heq ▸ List.mem_cons_of_mem z hy)
        rw [push_prev, List.headD_cons, if_neg (fun hk => hyz hk.1), if_neg hyx]

/-- Pushing leaves the nodes of other lists alone. -/
theorem push_frame (hy : y ∉ l) (hne : y ≠ x) :
    (k.push null (l.headD null) x).next y = k.next y ∧
      (k.push null (l.headD null) x).prev y = k.prev y := by
  constructor
  · rw [push_next, if_neg hne]
  · rw [push_prev, if_neg, if_neg hne]
    intro ⟨heq, hhead⟩
    rcases headD_mem l null with hz | hmem
    · exact hhead hz
    · exact hy (heq ▸ hmem)

/-- **Inserting** a new node behind another. -/
theorem Linked.insertAfter (h : k.Linked null (l₁ ++ x :: l₂) null)
    (hnodup : (l₁ ++ x :: l₂).Nodup) (hnull : null ∉ l₁ ++ x :: l₂) (hy : y ∉ l₁ ++ x :: l₂) :
    (k.insertAfter null x y).Linked null (l₁ ++ x :: y :: l₂) null := by
  obtain ⟨hprev, hnext⟩ := h.neighbours
  obtain ⟨hx₁, hx₂, hl₁, hdisjoint⟩ := nodup_around hnodup
  obtain ⟨hfirst, _, _, hsecond⟩ := linked_append.mp h
  have hy₁ : y ∉ l₁ := fun hmem => hy (List.mem_append_left _ hmem)
  have hy₂ : y ∉ l₂ := fun hmem => hy (List.mem_append_right _ (List.mem_cons_of_mem x hmem))
  have hne : x ≠ y := fun heq => hy (heq ▸ by simp)
  -- only the old successor gets a new predecessor
  have hprevs : ∀ z, z ∉ l₂ → z ≠ y → (k.insertAfter null x y).prev z = k.prev z := by
    intro z hz hzy
    rw [insertAfter_prev hne, hnext, if_neg, if_neg hzy]
    intro ⟨heq, hz'⟩
    rcases headD_mem l₂ null with hend | hmem
    · exact hz' hend
    · exact hz (heq ▸ hmem)
  refine linked_append.mpr ⟨hfirst.congr ?_ ?_, ?_, ?_, ?_, ?_, ?_⟩
  · intro z hz
    rw [insertAfter_next hne, if_neg (ne_of_mem_of_not_mem hz hx₁),
      if_neg (ne_of_mem_of_not_mem hz hy₁)]
  · intro z hz
    exact hprevs z (hdisjoint z hz) (fun heq => hy₁ (heq ▸ hz))
  · rw [hprevs x hx₂ hne, hprev]
  · rw [insertAfter_next hne, if_pos rfl]
    rfl
  · rw [insertAfter_prev hne, hnext, if_neg, if_pos rfl]
    intro ⟨heq, hz⟩
    rcases headD_mem l₂ null with hend | hmem
    · exact hz hend
    · exact hy₂ (heq ▸ hmem)
  · rw [insertAfter_next hne, if_neg (Ne.symm hne), if_pos rfl, hnext]
  · cases l₂ with
    | nil => trivial
    | cons z l₂ =>
      have hz : z ≠ null := fun heq => hnull (heq ▸ by simp)
      have hsub : (z :: l₂).Nodup := (List.nodup_cons.mp (List.nodup_append.mp hnodup).2.1).2
      refine hsecond.changeStart ?_ ?_ ?_
      · rw [insertAfter_prev hne, hnext, List.headD_cons, if_pos ⟨rfl, hz⟩]
      · intro w hw
        rw [insertAfter_next hne, if_neg (ne_of_mem_of_not_mem hw hx₂),
          if_neg (ne_of_mem_of_not_mem hw hy₂)]
      · intro w hw
        have hwz : w ≠ z := fun heq => (List.nodup_cons.mp hsub).1 (heq ▸ hw)
        have hwy : w ≠ y := fun heq => hy₂ (heq ▸ List.mem_cons_of_mem z hw)
        rw [insertAfter_prev hne, hnext, List.headD_cons, if_neg (fun hk => hwz hk.1), if_neg hwy]

/-- **Joining** what is around a segment drops the segment. -/
theorem Linked.joinAfter {mid : List α} (h : k.Linked null (l₁ ++ x :: (mid ++ l₂)) null)
    (hnodup : (l₁ ++ x :: (mid ++ l₂)).Nodup) (hnull : null ∉ l₁ ++ x :: (mid ++ l₂)) :
    (k.joinAfter null x (l₂.headD null)).Linked null (l₁ ++ x :: l₂) null := by
  obtain ⟨hx₁, hx₂, hl₁, hdisjoint⟩ := nodup_around hnodup
  obtain ⟨hfirst, hprev, _, hrest⟩ := linked_append.mp h
  have hsecond := (linked_append.mp hrest).2
  have hx₂' : x ∉ l₂ := fun hmem => hx₂ (List.mem_append_right mid hmem)
  have hprevs : ∀ z, z ∉ l₂ → (k.joinAfter null x (l₂.headD null)).prev z = k.prev z := by
    intro z hz
    rw [joinAfter_prev, if_neg]
    intro ⟨heq, hz'⟩
    rcases headD_mem l₂ null with hend | hmem
    · exact hz' hend
    · exact hz (heq ▸ hmem)
  refine linked_append.mpr ⟨hfirst.congr ?_ ?_, ?_, ?_, ?_⟩
  · intro z hz
    rw [joinAfter_next, if_neg (ne_of_mem_of_not_mem hz hx₁)]
  · intro z hz
    exact hprevs z (fun hmem => hdisjoint z hz (List.mem_append_right mid hmem))
  · rw [hprevs x hx₂', hprev]
  · rw [joinAfter_next, if_pos rfl]
  · cases l₂ with
    | nil => trivial
    | cons z l₂ =>
      have hz : z ≠ null := fun heq => hnull (heq ▸ by simp)
      have htail : (mid ++ z :: l₂).Nodup :=
        (List.nodup_cons.mp (List.nodup_append.mp hnodup).2.1).2
      refine hsecond.changeStart ?_ ?_ ?_
      · rw [joinAfter_prev, List.headD_cons, if_pos ⟨rfl, hz⟩]
      · intro w hw
        rw [joinAfter_next, if_neg (ne_of_mem_of_not_mem hw hx₂')]
      · intro w hw
        have hwz : w ≠ z := fun heq => (nodup_around htail).2.1 (heq ▸ hw)
        rw [joinAfter_prev, List.headD_cons, if_neg (fun hk => hwz hk.1)]

/-- **Replacing** a node that has a predecessor by a new one. -/
theorem Linked.replace {p : α} (h : k.Linked null (l₁ ++ p :: x :: l₂) null)
    (hnodup : (l₁ ++ p :: x :: l₂).Nodup) (hnull : null ∉ l₁ ++ p :: x :: l₂)
    (hy : y ∉ l₁ ++ p :: x :: l₂) : (k.replace null x y).Linked null (l₁ ++ p :: y :: l₂) null := by
  obtain ⟨hfirst, hpprev, _, hxprev, hxnext, hsecond⟩ := linked_append.mp h
  obtain ⟨hp₁, hp₂, _, hdisjoint⟩ := nodup_around hnodup
  obtain ⟨hx₂, hl₂⟩ :=
    List.nodup_cons.mp (List.nodup_cons.mp (List.nodup_append.mp hnodup).2.1).2
  have hpx : p ≠ x := fun heq => hp₂ (heq ▸ List.mem_cons_self)
  have hprevne : k.prev x ≠ x := by
    rw [hxprev]
    exact hpx
  have hnextne : k.next x ≠ x := by
    rw [hxnext]
    intro heq
    rcases headD_mem l₂ null with hend | hmem
    · exact hnull (hend ▸ heq ▸ by simp)
    · exact hx₂ (heq ▸ hmem)
  have hy₁ : y ∉ l₁ := fun hmem => hy (List.mem_append_left _ hmem)
  have hyp : y ≠ p := fun heq => hy (heq ▸ by simp)
  have hy₂ : y ∉ l₂ := fun hmem => hy (by simp [hmem])
  have hprevs : ∀ z, z ∉ l₂ → z ≠ y → (k.replace null x y).prev z = k.prev z := by
    intro z hz hzy
    rw [replace_prev hnextne, if_neg hzy, hxnext, if_neg]
    intro ⟨heq, hz'⟩
    rcases headD_mem l₂ null with hend | hmem
    · exact hz' hend
    · exact hz (heq ▸ hmem)
  refine linked_append.mpr ⟨hfirst.congr ?_ ?_, ?_, ?_, ?_, ?_, ?_⟩
  · intro z hz
    rw [replace_next hprevne hnextne, if_neg (ne_of_mem_of_not_mem hz hy₁), hxprev,
      if_neg (ne_of_mem_of_not_mem hz hp₁)]
  · intro z hz
    have hz₂ : z ∉ l₂ := fun hmem => hdisjoint z hz (List.mem_cons_of_mem x hmem)
    exact hprevs z hz₂ (fun heq => hy₁ (heq ▸ hz))
  · rw [hprevs p (fun hmem => hp₂ (List.mem_cons_of_mem x hmem)) (Ne.symm hyp), hpprev]
  · rw [replace_next hprevne hnextne, if_neg (Ne.symm hyp), hxprev, if_pos rfl]
    rfl
  · rw [replace_prev hnextne, if_pos rfl, hxprev]
  · rw [replace_next hprevne hnextne, if_pos rfl, hxnext]
  · cases l₂ with
    | nil => trivial
    | cons z l₂ =>
      have hz : z ≠ null := fun heq => hnull (heq ▸ by simp)
      have hzy : z ≠ y := fun heq => hy₂ (heq ▸ List.mem_cons_self)
      refine hsecond.changeStart ?_ ?_ ?_
      · rw [replace_prev hnextne, if_neg hzy, hxnext, List.headD_cons, if_pos ⟨rfl, hz⟩]
      · intro w hw
        have hwp : w ≠ p := fun heq => hp₂ (heq ▸ List.mem_cons_of_mem x hw)
        rw [replace_next hprevne hnextne, if_neg (ne_of_mem_of_not_mem hw hy₂), hxprev, if_neg hwp]
      · intro w hw
        have hwz : w ≠ z := fun heq => (List.nodup_cons.mp hl₂).1 (heq ▸ hw)
        have hwy : w ≠ y := fun heq => hy₂ (heq ▸ List.mem_cons_of_mem z hw)
        rw [replace_prev hnextne, if_neg hwy, hxnext, List.headD_cons,
          if_neg (fun hk => hwz hk.1)]

end Lists

end Links

/-! ## Several lists over the same links -/

/-- The links of all nodes, and the heads of a family of lists. -/
structure Lists (ι α : Type) where
  links : Links α
  head : ι → α

namespace Lists

variable {ι : Type}

/-- The lists are these, and no two share a node. -/
structure Hold (q : Lists ι α) (null : α) (lists : ι → List α) : Prop where
  linked : ∀ i, q.links.Linked null (lists i) null
  head : ∀ i, q.head i = (lists i).headD null
  nodup : ∀ i, (lists i).Nodup
  nonnull : ∀ i, null ∉ lists i
  disjoint : ∀ {i j x}, x ∈ lists i → x ∈ lists j → i = j

section Members

variable {q q' : Lists ι α} {null : α} {lists : ι → List α} {i : ι} {x : α}

/-- Only the links of the nodes on lists matter. -/
theorem Hold.congr (h : q.Hold null lists) (hhead : q'.head = q.head)
    (hnext : ∀ i, ∀ y ∈ lists i, q'.links.next y = q.links.next y)
    (hprev : ∀ i, ∀ y ∈ lists i, q'.links.prev y = q.links.prev y) : q'.Hold null lists where
  linked j := (h.linked j).congr (hnext j) (hprev j)
  head j := by rw [hhead, h.head j]
  nodup := h.nodup
  nonnull := h.nonnull
  disjoint := h.disjoint

/-- The neighbours of a node on a list are null or on it. -/
theorem Hold.next_mem (h : q.Hold null lists) (hx : x ∈ lists i) :
    q.links.next x ≠ null → q.links.next x ∈ lists i :=
  fun hne => ((h.linked i).next_mem hx).resolve_left hne

theorem Hold.prev_mem (h : q.Hold null lists) (hx : x ∈ lists i) :
    q.links.prev x ≠ null → q.links.prev x ∈ lists i :=
  fun hne => ((h.linked i).prev_mem hx).resolve_left hne

theorem Hold.head_mem (h : q.Hold null lists) : q.head i ≠ null → q.head i ∈ lists i := by
  rw [h.head i]
  exact fun hne => (Links.headD_mem (lists i) null).resolve_left hne

end Members

section Operations

variable [DecidableEq ι] [DecidableEq α]

/-- Take `x` out of list `i`. -/
def unlink (q : Lists ι α) (null : α) (i : ι) (x : α) : Lists ι α where
  links := q.links.unlink null x
  head := if q.head i = x then Function.update q.head i (q.links.next x) else q.head

/-- Put `x` in front of list `i`. -/
def link (q : Lists ι α) (null : α) (i : ι) (x : α) : Lists ι α where
  links := q.links.push null (q.head i) x
  head := Function.update q.head i x

variable {q : Lists ι α} {null : α} {lists : ι → List α} {i : ι} {x : α}

/-- **Taking a node out** of its list. -/
theorem Hold.unlink (h : q.Hold null lists) (hx : x ∈ lists i) :
    ∃ l, (∀ y, y ∈ l ↔ y ∈ lists i ∧ y ≠ x) ∧
      (q.unlink null i x).Hold null (Function.update lists i l) := by
  obtain ⟨l₁, l₂, hsplit⟩ := List.append_of_mem hx
  have hlinked := h.linked i
  have hnodup := h.nodup i
  have hnull := h.nonnull i
  rw [hsplit] at hlinked hnodup hnull
  obtain ⟨hx₁, hx₂, _, hdisjoint⟩ := Links.nodup_around hnodup
  have hmem : ∀ y, y ∈ l₁ ++ l₂ ↔ y ∈ lists i ∧ y ≠ x := by
    intro y
    rw [hsplit, List.mem_append, List.mem_append, List.mem_cons]
    constructor
    · intro hy
      rcases hy with hy | hy
      · exact ⟨Or.inl hy, ne_of_mem_of_not_mem hy hx₁⟩
      · exact ⟨Or.inr (Or.inr hy), ne_of_mem_of_not_mem hy hx₂⟩
    · intro ⟨hy, hne⟩
      rcases hy with hy | hy | hy
      · exact Or.inl hy
      · exact absurd hy hne
      · exact Or.inr hy
  have hparts : (l₁ ++ l₂).Nodup :=
    List.nodup_append.mpr ⟨(List.nodup_append.mp hnodup).1,
      (List.nodup_cons.mp (List.nodup_append.mp hnodup).2.1).2,
      fun y hy z hz => ne_of_mem_of_not_mem hy (fun hmem => hdisjoint z hmem hz)⟩
  refine ⟨l₁ ++ l₂, hmem, ⟨?_, ?_, ?_, ?_, ?_⟩⟩
  · intro j
    by_cases hj : j = i
    · rw [hj, Function.update_self]
      exact hlinked.unlink hnodup hnull
    · rw [Function.update_of_ne hj]
      have hframe : ∀ y ∈ lists j, y ∉ lists i := fun y hy hyi => hj (h.disjoint hy hyi)
      exact (h.linked j).congr (fun y hy => ((h.linked i).unlink_frame hx (hframe y hy)).1)
        (fun y hy => ((h.linked i).unlink_frame hx (hframe y hy)).2)
  · intro j
    have hheadi : q.head i = (l₁ ++ x :: l₂).headD null := by rw [h.head i, hsplit]
    have hnext : q.links.next x = l₂.headD null := hlinked.neighbours.2
    show (if q.head i = x then _ else q.head) j = _
    by_cases hj : j = i
    · rw [hj, Function.update_self]
      cases l₁ with
      | nil =>
        have hhead : q.head i = x := hheadi
        rw [if_pos hhead, Function.update_self, hnext]
        rfl
      | cons y l₁ =>
        have hne : q.head i ≠ x := by
          rw [hheadi]
          exact fun heq => hx₁ (heq ▸ List.mem_cons_self)
        rw [if_neg hne, hheadi]
        rfl
    · rw [Function.update_of_ne hj, ← h.head j]
      split
      next => rw [Function.update_of_ne hj]
      next => rfl
  · intro j
    by_cases hj : j = i
    · rw [hj, Function.update_self]
      exact hparts
    · rw [Function.update_of_ne hj]
      exact h.nodup j
  · intro j
    by_cases hj : j = i
    · rw [hj, Function.update_self]
      exact fun hmem' => h.nonnull i ((hmem null).mp hmem').1
    · rw [Function.update_of_ne hj]
      exact h.nonnull j
  · have hold : ∀ j y, y ∈ Function.update lists i (l₁ ++ l₂) j → y ∈ lists j := by
      intro j y hy
      by_cases hj : j = i
      · rw [hj, Function.update_self] at hy
        rw [hj]
        exact ((hmem y).mp hy).1
      · rwa [Function.update_of_ne hj] at hy
    intro j j' y hy hy'
    exact h.disjoint (hold j y hy) (hold j' y hy')

/-- **Putting a node** on a list that is on none. -/
theorem Hold.link (h : q.Hold null lists) (i : ι) (hx : ∀ j, x ∉ lists j) (hne : x ≠ null) :
    (q.link null i x).Hold null (Function.update lists i (x :: lists i)) := by
  have hlinks : (q.link null i x).links = q.links.push null ((lists i).headD null) x := by
    show q.links.push null (q.head i) x = _
    rw [h.head i]
  refine ⟨?_, ?_, ?_, ?_, ?_⟩
  · intro j
    rw [hlinks]
    by_cases hj : j = i
    · rw [hj, Function.update_self]
      exact (h.linked i).push (h.nodup i) (h.nonnull i) (hx i)
    · rw [Function.update_of_ne hj]
      have hframe : ∀ y ∈ lists j, y ∉ lists i ∧ y ≠ x :=
        fun y hy => ⟨fun hyi => hj (h.disjoint hy hyi), ne_of_mem_of_not_mem hy (hx j)⟩
      exact (h.linked j).congr
        (fun y hy => (Links.push_frame (hframe y hy).1 (hframe y hy).2).1)
        (fun y hy => (Links.push_frame (hframe y hy).1 (hframe y hy).2).2)
  · intro j
    show Function.update q.head i x j = _
    by_cases hj : j = i
    · rw [hj, Function.update_self, Function.update_self]
      rfl
    · rw [Function.update_of_ne hj, Function.update_of_ne hj, h.head j]
  · intro j
    by_cases hj : j = i
    · rw [hj, Function.update_self]
      exact List.nodup_cons.mpr ⟨hx i, h.nodup i⟩
    · rw [Function.update_of_ne hj]
      exact h.nodup j
  · intro j
    by_cases hj : j = i
    · rw [hj, Function.update_self]
      intro hmem
      rcases List.mem_cons.mp hmem with heq | hold
      · exact hne heq.symm
      · exact h.nonnull i hold
    · rw [Function.update_of_ne hj]
      exact h.nonnull j
  · have hcases : ∀ j y, y ∈ Function.update lists i (x :: lists i) j →
        (y = x ∧ j = i) ∨ (y ≠ x ∧ y ∈ lists j) := by
      intro j y hy
      by_cases hj : j = i
      · rw [hj, Function.update_self] at hy
        rcases List.mem_cons.mp hy with heq | hold
        · exact Or.inl ⟨heq, hj⟩
        · rw [hj]
          exact Or.inr ⟨ne_of_mem_of_not_mem hold (hx i), hold⟩
      · rw [Function.update_of_ne hj] at hy
        exact Or.inr ⟨ne_of_mem_of_not_mem hy (hx j), hy⟩
    intro j j' y hy hy'
    rcases hcases j y hy with ⟨heq, hj⟩ | ⟨hyx, hold⟩
    · rcases hcases j' y hy' with ⟨_, hj'⟩ | ⟨hyx, _⟩
      · rw [hj, hj']
      · exact absurd heq hyx
    · rcases hcases j' y hy' with ⟨heq, _⟩ | ⟨_, hold'⟩
      · exact absurd heq hyx
      · exact h.disjoint hold hold'

end Operations

end Lists

end DeepShield.Lib
