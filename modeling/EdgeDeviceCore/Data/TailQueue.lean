import Mathlib

/-!
# Tail queues

A tail queue is a doubly linked list of nodes in memory: each node holds the address of the next
node and the place that holds its own address, and the head holds the address of the first node and
the place where the next insertion stores an address. An operation on a node that is not
allocated has no result. Operations remember which nodes were removed and freed, in order.
-/

namespace EdgeDeviceCore.Data

/-- A place that holds the address of a node: `tqh_first`, or `tqe_next` of a node. -/
inductive TailQueue.Link (Address : Type*) where
  | head
  | next (address : Address)
deriving DecidableEq, Repr

structure TailQueue.Node (Address Entry : Type*) where
  entry : Entry
  /-- `tqe_next`. -/
  next : Option Address
  /-- `tqe_prev`. -/
  prev : TailQueue.Link Address
deriving DecidableEq, Repr

structure TailQueue (Address Entry : Type*) where
  /-- `tqh_first`. -/
  first : Option Address
  /-- `tqh_last`. -/
  last : TailQueue.Link Address
  /-- The allocated nodes. -/
  node : Address → Option (TailQueue.Node Address Entry)
  removed : List Address
  freed : List Address

namespace TailQueue

variable {Address Entry : Type*}

/-- `TAILQ_HEAD_INITIALIZER`. -/
def empty : TailQueue Address Entry := ⟨none, .head, fun _ ↦ none, [], []⟩

section Operations

variable [DecidableEq Address]

def setNode (address : Address) (node : Option (Node Address Entry))
    (queue : TailQueue Address Entry) : TailQueue Address Entry :=
  { queue with node := Function.update queue.node address node }

/-- Store an address in a place. -/
def storeNext (place : Link Address) (target : Option Address) (queue : TailQueue Address Entry) :
    Option (TailQueue Address Entry) :=
  match place with
  | .head => some { queue with first := target }
  | .next address =>
      (queue.node address).map fun node ↦
        queue.setNode address (some { node with next := target })

/-- `TAILQ_INSERT_TAIL` of a node that has just been allocated. -/
def insertTail (address : Address) (entry : Entry) (queue : TailQueue Address Entry) :
    Option (TailQueue Address Entry) :=
  if (queue.node address).isSome then none
  else
    ((queue.setNode address (some ⟨entry, none, queue.last⟩)).storeNext queue.last
      (some address)).map fun queue ↦ { queue with last := .next address }

/-- `TAILQ_REMOVE`. -/
def remove (address : Address) (queue : TailQueue Address Entry) :
    Option (TailQueue Address Entry) := do
  let node ← queue.node address
  let queue ←
    match node.next with
    | some next => do
        let following ← queue.node next
        some (queue.setNode next (some { following with prev := node.prev }))
    | none => some { queue with last := node.prev }
  let queue ← queue.storeNext node.prev node.next
  some { queue with removed := queue.removed ++ [address] }

def free (address : Address) (queue : TailQueue Address Entry) :
    Option (TailQueue Address Entry) :=
  (queue.node address).map fun _ ↦
    { queue.setNode address none with freed := queue.freed ++ [address] }

end Operations

/-- `TAILQ_FOREACH_SAFE`: the address of the next node is read before the body runs. -/
def forEachSafe {State : Type*} (queue : State → TailQueue Address Entry)
    (body : Address → State → Option State) : ℕ → Option Address → State → Option State
  | _, none, state => some state
  | 0, some _, _ => none
  | fuel + 1, some var, state =>
      ((queue state).node var).bind fun node ↦
        (body var state).bind fun state ↦ forEachSafe queue body fuel node.next state

/-! ## The list that a queue represents -/

/-- The nodes of a list stand one behind the other, from an address that is stored at a place to
the place behind them. -/
def Chain (node : Address → Option (Node Address Entry)) :
    Link Address → Option Address → Link Address → List (Address × Entry) → Prop
  | place, first, last, [] => first = none ∧ last = place
  | place, first, last, (address, entry) :: rest =>
      first = some address ∧ ∃ next, node address = some ⟨entry, next, place⟩ ∧
        Chain node (.next address) next last rest

structure Represents (queue : TailQueue Address Entry) (entries : List (Address × Entry)) :
    Prop where
  chain : Chain queue.node .head queue.first queue.last entries
  nodup : (entries.map Prod.fst).Nodup
  allocated : ∀ address, queue.node address ≠ none ↔ address ∈ entries.map Prod.fst

section Chain

variable {node node' : Address → Option (Node Address Entry)} {place last : Link Address}
  {first : Option Address} {entries : List (Address × Entry)}

/-- A chain depends on its own nodes only. -/
theorem Chain.congr (h : Chain node place first last entries)
    (hsame : ∀ address ∈ entries.map Prod.fst, node' address = node address) :
    Chain node' place first last entries := by
  induction entries generalizing place first with
  | nil => exact h
  | cons head rest ih =>
      obtain ⟨hfirst, next, hnode, hrest⟩ := h
      refine ⟨hfirst, next, (hsame _ (List.mem_cons_self ..)).trans hnode, ?_⟩
      exact ih hrest fun address hmem ↦ hsame address (List.mem_cons_of_mem _ hmem)

theorem Chain.first_eq (h : Chain node place first last entries) :
    first = entries.head?.map Prod.fst := by
  cases entries with
  | nil => exact h.1
  | cons head rest => exact h.1

/-- The place behind the nodes of a list is in its last node. -/
theorem Chain.exists_last (h : Chain node place first last entries) (hne : entries ≠ []) :
    ∃ address ∈ entries.map Prod.fst, last = .next address := by
  induction entries generalizing place first with
  | nil => exact absurd rfl hne
  | cons head rest ih =>
      obtain ⟨-, next, -, hrest⟩ := h
      cases rest with
      | nil => exact ⟨head.1, List.mem_cons_self .., hrest.2⟩
      | cons second rest =>
          obtain ⟨address, hmem, hlast⟩ := ih hrest (List.cons_ne_nil _ _)
          exact ⟨address, List.mem_cons_of_mem _ hmem, hlast⟩

/-- A chain grows by a node whose address is stored at the place behind it. -/
theorem Chain.concat (h : Chain node place first last entries)
    (hnodup : (entries.map Prod.fst).Nodup) {new : Address} {entry : Entry}
    (hnew : node' new = some ⟨entry, none, last⟩)
    (hlast : ∀ address old, last = .next address → node address = some old →
      node' address = some { old with next := some new })
    (hold : ∀ address ∈ entries.map Prod.fst, last ≠ .next address →
      node' address = node address) :
    Chain node' place (if entries = [] then some new else first) (.next new)
      (entries ++ [(new, entry)]) := by
  induction entries generalizing place first with
  | nil =>
      obtain ⟨-, rfl⟩ := h
      exact ⟨rfl, none, hnew, rfl, rfl⟩
  | cons head rest ih =>
      obtain ⟨address, value⟩ := head
      obtain ⟨hfirst, next, hnode, hrest⟩ := h
      obtain ⟨hnot, hnodup⟩ := List.nodup_cons.mp hnodup
      have hchain := ih hrest hnodup fun other hmem ↦ hold other (List.mem_cons_of_mem _ hmem)
      rw [if_neg (List.cons_ne_nil _ _)]
      refine ⟨hfirst, _, ?_, hchain⟩
      by_cases hnil : rest = []
      · subst hnil
        rw [hlast address _ hrest.2 hnode, if_pos rfl]
      · obtain ⟨other, hmem, hother⟩ := hrest.exists_last hnil
        have hne : last ≠ .next address := by
          rw [hother]
          intro heq
          exact hnot (Link.next.inj heq ▸ hmem)
        rw [hold address (List.mem_cons_self ..) hne, if_neg hnil, hnode]

end Chain

/-! ## What the operations do to the list -/

theorem represents_empty : Represents (empty : TailQueue Address Entry) [] where
  chain := ⟨rfl, rfl⟩
  nodup := List.nodup_nil
  allocated _ := iff_of_false (not_not_intro rfl) List.not_mem_nil

section Represents

variable {queue : TailQueue Address Entry} {entries rest : List (Address × Entry)}
  {address : Address} {entry : Entry}

theorem Represents.first_eq (h : Represents queue entries) :
    queue.first = entries.head?.map Prod.fst :=
  h.chain.first_eq

/-- An empty queue is the initial one again, and no node is allocated. -/
theorem Represents.eq_empty (h : Represents queue []) :
    queue.first = none ∧ queue.last = .head ∧ ∀ address, queue.node address = none := by
  refine ⟨h.chain.1, h.chain.2, fun address ↦ ?_⟩
  by_contra hallocated
  exact List.not_mem_nil ((h.allocated address).mp hallocated)

theorem Represents.node_cons (h : Represents queue ((address, entry) :: rest)) :
    queue.node address = some ⟨entry, rest.head?.map Prod.fst, .head⟩ := by
  obtain ⟨-, next, hnode, hrest⟩ := h.chain
  rw [hnode, hrest.first_eq]

theorem Represents.node_eq_none (h : Represents queue entries)
    (hnew : address ∉ entries.map Prod.fst) : queue.node address = none := by
  by_contra hallocated
  exact hnew ((h.allocated address).mp hallocated)

theorem nodup_concat (h : (entries.map Prod.fst).Nodup) (hnew : address ∉ entries.map Prod.fst)
    (entry : Entry) : ((entries ++ [(address, entry)]).map Prod.fst).Nodup := by
  rw [List.map_append, List.map_singleton]
  exact List.nodup_append.mpr ⟨h, List.nodup_singleton _, by
    intro other hother single hsingle
    rw [List.mem_singleton.mp hsingle]
    exact ne_of_mem_of_not_mem hother hnew⟩

variable [DecidableEq Address]

theorem insertTail_of_head (hfree : queue.node address = none) (hlast : queue.last = .head)
    (entry : Entry) :
    queue.insertTail address entry =
      some { queue with
        first := some address
        last := .next address
        node := Function.update queue.node address (some ⟨entry, none, .head⟩) } := by
  rw [insertTail, hfree, Option.isSome_none, if_neg Bool.false_ne_true, hlast]
  rfl

theorem insertTail_of_next {place : Address} {old : Node Address Entry}
    (hfree : queue.node address = none) (hlast : queue.last = .next place)
    (hold : queue.node place = some old) (entry : Entry) :
    queue.insertTail address entry =
      some { queue with
        last := .next address
        node := Function.update
          (Function.update queue.node address (some ⟨entry, none, .next place⟩))
          place (some { old with next := some address }) } := by
  have hplace : place ≠ address := by
    rintro rfl
    rw [hfree] at hold
    cases hold
  have hstored : (queue.setNode address (some ⟨entry, none, .next place⟩)).node place =
      some old :=
    (Function.update_of_ne hplace _ _).trans hold
  rw [insertTail, hfree, Option.isSome_none, if_neg Bool.false_ne_true, hlast, storeNext, hstored]
  rfl

/-- An insertion of a new node appends its entry. -/
theorem Represents.insertTail (h : Represents queue entries)
    (hnew : address ∉ entries.map Prod.fst) (entry : Entry) :
    ∃ queue', queue.insertTail address entry = some queue' ∧
      Represents queue' (entries ++ [(address, entry)]) ∧
      queue'.removed = queue.removed ∧ queue'.freed = queue.freed := by
  have hfree := h.node_eq_none hnew
  have hchain := h.chain
  have hnodup := nodup_concat h.nodup hnew entry
  cases hlast : queue.last with
  | head =>
      have hnil : entries = [] := by
        by_contra hne
        obtain ⟨other, -, hother⟩ := hchain.exists_last hne
        exact absurd (hlast.symm.trans hother) nofun
      subst hnil
      refine ⟨_, insertTail_of_head hfree hlast entry, ⟨?_, hnodup, ?_⟩, rfl, rfl⟩
      · exact ⟨rfl, none, Function.update_self .., rfl, rfl⟩
      · intro other
        by_cases hother : other = address <;> simp [hother, h.node_eq_none]
  | next place =>
      have hne : entries ≠ [] := by
        rintro rfl
        exact absurd (hlast.symm.trans hchain.2) nofun
      obtain ⟨other, hmem, hother⟩ := hchain.exists_last hne
      obtain rfl := Link.next.inj (hlast.symm.trans hother)
      have hplace : place ≠ address := ne_of_mem_of_not_mem hmem hnew
      obtain ⟨old, hold⟩ := Option.ne_none_iff_exists'.mp ((h.allocated place).mpr hmem)
      refine ⟨_, insertTail_of_next hfree hlast hold entry, ⟨?_, hnodup, ?_⟩, rfl, rfl⟩
      · have hconcat : Chain (Function.update
            (Function.update queue.node address (some ⟨entry, none, .next place⟩))
            place (some { old with next := some address }))
            .head (if entries = [] then some address else queue.first) (.next address)
            (entries ++ [(address, entry)]) := by
          apply hchain.concat h.nodup
          · rw [Function.update_of_ne hplace.symm, Function.update_self, hlast]
          · intro other node hother hnode
            obtain rfl := Link.next.inj (hlast.symm.trans hother)
            rw [Function.update_self, ← Option.some.inj (hold.symm.trans hnode)]
          · intro other hmem hother
            have hplaced : other ≠ place := fun heq ↦ hother (heq ▸ hlast)
            rw [Function.update_of_ne hplaced,
              Function.update_of_ne (ne_of_mem_of_not_mem hmem hnew)]
        rwa [if_neg hne] at hconcat
      · intro other
        rw [List.map_append, List.mem_append, ← h.allocated, List.map_singleton,
          List.mem_singleton]
        by_cases hplaced : other = place
        · simp [hplaced, hold]
        · by_cases haddress : other = address <;> simp [hplaced, haddress, hplace.symm]

/-- Removing and freeing the only node. -/
theorem remove_free_last (hnode : queue.node address = some ⟨entry, none, .head⟩) :
    (queue.remove address).bind (free address) =
      some { queue with
        first := none
        last := .head
        node := Function.update queue.node address none
        removed := queue.removed ++ [address]
        freed := queue.freed ++ [address] } := by
  have hremove : queue.remove address =
      some { queue with first := none, last := .head, removed := queue.removed ++ [address] } := by
    rw [remove, hnode]
    rfl
  rw [hremove, Option.bind_some, free, hnode]
  rfl

/-- Removing and freeing the first of several nodes. -/
theorem remove_free_cons {next : Address} {following : Node Address Entry}
    (hnode : queue.node address = some ⟨entry, some next, .head⟩)
    (hnext : queue.node next = some following) (hne : next ≠ address) :
    (queue.remove address).bind (free address) =
      some { queue with
        first := some next
        node := Function.update
          (Function.update queue.node next (some { following with prev := .head })) address none
        removed := queue.removed ++ [address]
        freed := queue.freed ++ [address] } := by
  have hremove : queue.remove address =
      some { queue with
        first := some next
        node := Function.update queue.node next (some { following with prev := .head })
        removed := queue.removed ++ [address] } := by
    rw [remove, hnode]
    dsimp only [Option.bind_eq_bind, Option.bind_some]
    rw [hnext]
    rfl
  have hkept : Function.update queue.node next (some { following with prev := .head }) address =
      some ⟨entry, some next, .head⟩ :=
    (Function.update_of_ne hne.symm _ _).trans hnode
  rw [hremove, Option.bind_some, free]
  dsimp only
  rw [hkept]
  rfl

/-- A removal of the first node, and freeing it, drops the first entry. -/
theorem Represents.remove_free (h : Represents queue ((address, entry) :: rest)) :
    ∃ queue', (queue.remove address).bind (free address) = some queue' ∧ Represents queue' rest ∧
      queue'.removed = queue.removed ++ [address] ∧ queue'.freed = queue.freed ++ [address] := by
  obtain ⟨-, first, hnode, hrest⟩ := h.chain
  obtain ⟨hnot, hnodup⟩ := List.nodup_cons.mp h.nodup
  have hallocated (other : Address) (hother : other ≠ address) :
      queue.node other ≠ none ↔ other ∈ rest.map Prod.fst := by
    rw [h.allocated, List.map_cons, List.mem_cons, or_iff_right hother]
  cases rest with
  | nil =>
      obtain rfl := hrest.1
      refine ⟨_, remove_free_last hnode, ⟨⟨rfl, rfl⟩, hnodup, ?_⟩, rfl, rfl⟩
      intro other
      by_cases hother : other = address
      · simp [hother]
      · rw [← hallocated other hother]
        dsimp only
        rw [Function.update_of_ne hother]
  | cons second rest =>
      obtain ⟨next, value⟩ := second
      obtain ⟨rfl, after, hnext, hrest⟩ := hrest
      have hne : next ≠ address := by
        rintro rfl
        exact hnot (List.mem_cons_self ..)
      obtain ⟨hnotNext, -⟩ := List.nodup_cons.mp hnodup
      refine ⟨_, remove_free_cons hnode hnext hne, ⟨?_, hnodup, ?_⟩, rfl, rfl⟩
      · refine ⟨rfl, after, ?_, hrest.congr ?_⟩
        · dsimp only
          rw [Function.update_of_ne hne, Function.update_self]
        · intro other hmem
          dsimp only
          have hother : other ≠ address := fun heq ↦ hnot (heq ▸ List.mem_cons_of_mem _ hmem)
          have hotherNext : other ≠ next := fun heq ↦ hnotNext (heq ▸ hmem)
          rw [Function.update_of_ne hother, Function.update_of_ne hotherNext]
      · intro other
        by_cases hother : other = address
        · subst hother
          simpa using hnot
        · rw [← hallocated other hother]
          dsimp only
          rw [Function.update_of_ne hother]
          by_cases hotherNext : other = next
          · simp [hotherNext, hnext]
          · rw [Function.update_of_ne hotherNext]

end Represents

/-! ## Draining loops -/

/-- A loop whose body drops the first entry of the queue runs once for each entry. -/
theorem forEachSafe_drain [DecidableEq Address] {State : Type*}
    {queue : State → TailQueue Address Entry} {body : Address → State → Option State}
    {Inv : List (Address × Entry) → State → Prop}
    (represents : ∀ entries state, Inv entries state → Represents (queue state) entries)
    (step : ∀ address entry rest state, Inv ((address, entry) :: rest) state →
      ∃ state', body address state = some state' ∧ Inv rest state')
    {entries : List (Address × Entry)} {state : State} (h : Inv entries state) {fuel : ℕ}
    (hfuel : entries.length ≤ fuel) :
    ∃ state', forEachSafe queue body fuel (queue state).first state = some state' ∧
      Inv [] state' := by
  induction entries generalizing state fuel with
  | nil =>
      rw [(represents [] state h).eq_empty.1]
      exact ⟨state, by cases fuel <;> rfl, h⟩
  | cons head rest ih =>
      obtain ⟨address, entry⟩ := head
      have hqueue := represents _ state h
      obtain ⟨state', hbody, hrest⟩ := step address entry rest state h
      cases fuel with
      | zero => exact absurd hfuel (Nat.not_succ_le_zero _)
      | succ fuel =>
          obtain ⟨final, hfinal, hnil⟩ := ih hrest (Nat.le_of_succ_le_succ hfuel)
          refine ⟨final, ?_, hnil⟩
          rw [hqueue.first_eq, List.head?_cons, Option.map_some, forEachSafe, hqueue.node_cons,
            Option.bind_some, hbody, Option.bind_some]
          rw [(represents _ _ hrest).first_eq] at hfinal
          exact hfinal

end TailQueue

end EdgeDeviceCore.Data
