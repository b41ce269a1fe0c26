import EdgeDeviceCore.Semantics.AtomicProgram

/-!
# Exclusive sections serialise

A pool of programs runs under a schedule, one operation at a time. Some operations open a section,
which lasts until the program is done. When no program opens a section while another is inside
one, the whole run agrees with running the programs one after another in the order in which they
finish. What a program does before its section must be a prelude: it leaves the state as it is,
and it may be postponed to the section's start without a difference that the agreement sees.
-/

namespace EdgeDeviceCore.Semantics.ExclusiveSections

open AtomicProgram

variable {Op : Type} {Reply : Op → Type} {Result State : Type}

/-- A program of the pool: where it started, what is left, and whether its section is open. -/
structure Thread (Op : Type) (Reply : Op → Type) (Result : Type) where
  origin : AtomicProgram Op Reply Result
  rest : AtomicProgram Op Reply Result
  opened : Bool

namespace Thread

def start (program : AtomicProgram Op Reply Result) : Thread Op Reply Result :=
  ⟨program, program, false⟩

def finished (thread : Thread Op Reply Result) : Bool :=
  match thread.rest with
  | .done _ => true
  | .issue _ _ => false

/-- The thread is between the opening of its section and its end. -/
def inside (thread : Thread Op Reply Result) : Bool := thread.opened && !thread.finished

end Thread

variable (perform : (op : Op) → State → Reply op × State) (opens : Op → Bool)

structure Pool (Op : Type) (Reply : Op → Type) (Result State : Type) where
  threads : List (Thread Op Reply Result)
  state : State

/-- The scheduled thread issues its next operation. -/
def Pool.step (pool : Pool Op Reply Result State) (scheduled : ℕ) :
    Option (Pool Op Reply Result State) :=
  match pool.threads[scheduled]? with
  | some ⟨origin, .issue op next, opened⟩ =>
      let reply := perform op pool.state
      some ⟨pool.threads.set scheduled ⟨origin, next reply.1, opened || opens op⟩, reply.2⟩
  | _ => none

def Pool.run (pool : Pool Op Reply Result State) (schedule : List ℕ) :
    Option (Pool Op Reply Result State) :=
  schedule.foldlM (Pool.step perform opens) pool

/-- The state that a run leaves in which every program finishes. -/
def Pool.outcome (pool : Pool Op Reply Result State) (schedule : List ℕ) : Option State :=
  (pool.run perform opens schedule).bind fun after ↦
    if after.threads.all Thread.finished then some after.state else none

/-- The next operation of the scheduled thread opens its section. -/
def Pool.opensSection (pool : Pool Op Reply Result State) (scheduled : ℕ) : Bool :=
  match pool.threads[scheduled]? with
  | some ⟨_, .issue op _, _⟩ => opens op
  | _ => false

/-- A thread other than the scheduled one is inside its section. -/
def Pool.occupied (pool : Pool Op Reply Result State) (scheduled : ℕ) : Bool :=
  (pool.threads.eraseIdx scheduled).any Thread.inside

/-- Along the schedule, no thread opens its section while another thread is inside one. -/
def Pool.exclusive (pool : Pool Op Reply Result State) : List ℕ → Bool
  | [] => true
  | scheduled :: schedule =>
      !(pool.opensSection opens scheduled && pool.occupied scheduled) &&
        match pool.step perform opens scheduled with
        | some next => next.exclusive schedule
        | none => true

def Pool.start (programs : List (AtomicProgram Op Reply Result)) (state : State) :
    Pool Op Reply Result State :=
  ⟨programs.map Thread.start, state⟩

/-! ## Admissible programs -/

section Admissible

variable (agree : State → State → Prop) (invariant : State → Prop)

/-- What the rest of a program may be before its section opens, given where it started: the
operations so far and to come leave the state as it is, and starting from the rest agrees with
starting from the beginning. -/
def Prelude (origin : AtomicProgram Op Reply Result) : AtomicProgram Op Reply Result → Prop
  | .done _ => ∀ state, invariant state → agree state (origin.exec perform state).2
  | .issue op next =>
      if opens op then
        ∀ state, invariant state →
          agree ((AtomicProgram.issue op next).exec perform state).2 (origin.exec perform state).2
      else
        ∀ state, invariant state →
          (perform op state).2 = state ∧ Prelude origin (next (perform op state).1)

variable {perform opens agree invariant} in
/-- A program that opens its section at once has no prelude. -/
theorem Prelude.of_opens (hequivalence : Equivalence agree) {op : Op}
    {next : Reply op → AtomicProgram Op Reply Result} (h : opens op = true) :
    Prelude perform opens agree invariant (.issue op next) (.issue op next) := by
  rw [Prelude, if_pos h]
  exact fun state _ ↦ hequivalence.refl _

structure Admissible (program : AtomicProgram Op Reply Result) : Prop where
  keeps : program.Keeps perform invariant
  prelude : Prelude perform opens agree invariant program program
  respects : ∀ left right, invariant left → invariant right → agree left right →
    agree (program.exec perform left).2 (program.exec perform right).2

end Admissible

/-! ## Finished programs -/

/-- The programs that have run to their end. -/
def finishedOrigins (threads : List (Thread Op Reply Result)) :
    List (AtomicProgram Op Reply Result) :=
  (threads.filter Thread.finished).map Thread.origin

section Finished

variable {threads : List (Thread Op Reply Result)} {scheduled : ℕ}
  {thread updated : Thread Op Reply Result}

theorem finishedOrigins_set_of_unfinished (hthread : threads[scheduled]? = some thread)
    (hbefore : thread.finished = false) (hafter : updated.finished = false) :
    finishedOrigins (threads.set scheduled updated) = finishedOrigins threads := by
  induction threads generalizing scheduled with
  | nil => rfl
  | cons head threads ih =>
      cases scheduled with
      | zero =>
          obtain rfl : head = thread := by simpa using hthread
          simp [finishedOrigins, hbefore, hafter]
      | succ scheduled =>
          have hrest := ih (by simpa using hthread)
          unfold finishedOrigins at hrest ⊢
          by_cases hhead : head.finished <;> simp [hhead, hrest]

theorem finishedOrigins_set_of_finished (hthread : threads[scheduled]? = some thread)
    (hbefore : thread.finished = false) (hafter : updated.finished = true) :
    (finishedOrigins (threads.set scheduled updated)).Perm
      (finishedOrigins threads ++ [updated.origin]) := by
  induction threads generalizing scheduled with
  | nil => simp at hthread
  | cons head threads ih =>
      cases scheduled with
      | zero =>
          obtain rfl : head = thread := by simpa using hthread
          have hlist : finishedOrigins ((head :: threads).set 0 updated) =
              updated.origin :: finishedOrigins (head :: threads) := by
            simp [finishedOrigins, hbefore, hafter]
          rw [hlist]
          exact (List.perm_append_singleton _ _).symm
      | succ scheduled =>
          have hfound : threads[scheduled]? = some thread := by simpa using hthread
          have hrest := ih hfound
          unfold finishedOrigins at hrest ⊢
          by_cases hhead : head.finished
          · simpa [hhead] using hrest
          · simpa [hhead] using hrest

end Finished

/-! ## The serialisation invariant -/

section Serial

variable (agree : State → State → Prop) (invariant : State → Prop) (initial : State)

/-- At most one thread is inside its section, and the pool's state agrees with the serial state
once that thread has run to its end. -/
def Linked (threads : List (Thread Op Reply Result)) (state serial : State) : Prop :=
  ((∀ (position : ℕ) (thread : Thread Op Reply Result), threads[position]? = some thread →
        thread.inside = false) ∧
      agree state serial) ∨
    ∃ (position : ℕ) (thread : Thread Op Reply Result), threads[position]? = some thread ∧
      thread.inside = true ∧
      (∀ (other : ℕ) (another : Thread Op Reply Result), other ≠ position →
        threads[other]? = some another → another.inside = false) ∧
      agree (thread.rest.exec perform state).2 (thread.origin.exec perform serial).2

/-- The pool has come as far as running the finished programs one after another, in some order. -/
structure Serial (pool : Pool Op Reply Result State) : Prop where
  state_invariant : invariant pool.state
  admissible : ∀ thread ∈ pool.threads, Admissible perform opens agree invariant thread.origin
  keeps : ∀ thread ∈ pool.threads, thread.rest.Keeps perform invariant
  waiting : ∀ thread ∈ pool.threads, thread.opened = false →
    Prelude perform opens agree invariant thread.origin thread.rest
  linked : ∃ order, order.Perm (finishedOrigins pool.threads) ∧
    Linked perform agree pool.threads pool.state (execAll perform order initial)

variable {perform opens agree invariant initial}

/-- The scheduled thread, inside its section after its step, either finishes or stays inside. -/
theorem linked_of_inside {threads : List (Thread Op Reply Result)} {scheduled : ℕ}
    {thread updated : Thread Op Reply Result}
    {state serial : State} {order : List (AtomicProgram Op Reply Result)}
    (horder : order.Perm (finishedOrigins threads))
    (hserial : execAll perform order initial = serial)
    (hthread : threads[scheduled]? = some thread) (hbefore : thread.finished = false)
    (hopened : updated.opened = true)
    (hothers : ∀ (other : ℕ) (another : Thread Op Reply Result), other ≠ scheduled →
      threads[other]? = some another → another.inside = false)
    (hagree : agree (updated.rest.exec perform state).2 (updated.origin.exec perform serial).2) :
    ∃ order', order'.Perm (finishedOrigins (threads.set scheduled updated)) ∧
      Linked perform agree (threads.set scheduled updated) state
        (execAll perform order' initial) := by
  have hlength : scheduled < threads.length := (List.getElem?_eq_some_iff.mp hthread).1
  have hset (other : ℕ) (another : Thread Op Reply Result) (hne : other ≠ scheduled)
      (h : (threads.set scheduled updated)[other]? = some another) :
      another.inside = false := by
    rw [List.getElem?_set_ne (Ne.symm hne)] at h
    exact hothers other another hne h
  by_cases hafter : updated.finished = true
  · refine ⟨order ++ [updated.origin],
      (horder.append_right _).trans (finishedOrigins_set_of_finished hthread hbefore hafter).symm,
      Or.inl ⟨?_, ?_⟩⟩
    · intro position another h
      by_cases hposition : position = scheduled
      · subst hposition
        rw [List.getElem?_set_self hlength] at h
        obtain rfl := Option.some.inj h
        simp [Thread.inside, hafter]
      · exact hset position another hposition h
    · rw [execAll_concat, hserial]
      obtain ⟨origin, rest, opened⟩ := updated
      cases rest with
      | done result => exact hagree
      | issue op next => simp [Thread.finished] at hafter
  · rw [Bool.not_eq_true] at hafter
    refine ⟨order, ?_, Or.inr ⟨scheduled, updated, List.getElem?_set_self hlength, ?_, hset, ?_⟩⟩
    · rwa [finishedOrigins_set_of_unfinished hthread hbefore hafter]
    · simp [Thread.inside, hopened, hafter]
    · rwa [hserial]

theorem Pool.step_eq_some {pool after : Pool Op Reply Result State} {scheduled : ℕ}
    (h : pool.step perform opens scheduled = some after) :
    ∃ origin op next opened,
      pool.threads[scheduled]? = some ⟨origin, .issue op next, opened⟩ ∧
      after = ⟨pool.threads.set scheduled
          ⟨origin, next (perform op pool.state).1, opened || opens op⟩,
        (perform op pool.state).2⟩ := by
  unfold Pool.step at h
  split at h
  · rename_i origin op next opened hthread
    exact ⟨origin, op, next, opened, hthread, (Option.some.inj h).symm⟩
  · cases h

theorem Pool.others_outside {pool : Pool Op Reply Result State} {scheduled : ℕ} {op : Op}
    {origin : AtomicProgram Op Reply Result} {next : Reply op → AtomicProgram Op Reply Result}
    {opened : Bool}
    (hexclusive : (pool.opensSection opens scheduled && pool.occupied scheduled) = false)
    (hthread : pool.threads[scheduled]? = some ⟨origin, .issue op next, opened⟩)
    (hopens : opens op = true) (other : ℕ) (thread : Thread Op Reply Result)
    (hother : other ≠ scheduled) (h : pool.threads[other]? = some thread) :
    thread.inside = false := by
  have hsection : pool.opensSection opens scheduled = true := by
    rw [Pool.opensSection, hthread]
    exact hopens
  rw [hsection, Bool.true_and, Pool.occupied, List.any_eq_false] at hexclusive
  exact Bool.eq_false_of_not_eq_true
    (hexclusive thread (List.mem_eraseIdx_iff_getElem?.mpr ⟨other, hother, h⟩))

/-- The invariant of states that the serial run goes through. -/
theorem invariant_execAll {programs : List (AtomicProgram Op Reply Result)}
    (hadmissible : ∀ program ∈ programs, Admissible perform opens agree invariant program)
    (hinitial : invariant initial) : invariant (execAll perform programs initial) := by
  induction programs using List.reverseRecOn with
  | nil => exact hinitial
  | append_singleton programs program ih =>
      rw [execAll_concat]
      apply (hadmissible program (by simp)).keeps.exec
      exact ih fun other hmem ↦ hadmissible other (List.mem_append_left _ hmem)

theorem admissible_of_finished {threads : List (Thread Op Reply Result)}
    {order : List (AtomicProgram Op Reply Result)}
    (hadmissible : ∀ thread ∈ threads, Admissible perform opens agree invariant thread.origin)
    (horder : order.Perm (finishedOrigins threads)) :
    ∀ program ∈ order, Admissible perform opens agree invariant program := by
  intro program hprogram
  obtain ⟨thread, hthread, rfl⟩ := List.mem_map.mp (horder.mem_iff.mp hprogram)
  exact hadmissible thread (List.mem_of_mem_filter hthread)

/-- A thread that finishes before its section opens leaves every state as it is, so it may be run
at once. -/
theorem linked_of_finished_outside (hequivalence : Equivalence agree)
    {threads : List (Thread Op Reply Result)} {scheduled : ℕ}
    {thread updated : Thread Op Reply Result} {state : State}
    {order : List (AtomicProgram Op Reply Result)}
    (hinitial : invariant initial)
    (hadmissible : ∀ thread ∈ threads, Admissible perform opens agree invariant thread.origin)
    (horder : order.Perm (finishedOrigins threads))
    (hlinked : Linked perform agree threads state (execAll perform order initial))
    (hthread : threads[scheduled]? = some thread) (hbefore : thread.inside = false)
    (hunfinished : thread.finished = false) (horigin : updated.origin = thread.origin)
    (hafter : updated.finished = true)
    (hprelude : Prelude perform opens agree invariant updated.origin updated.rest) :
    ∃ order', order'.Perm (finishedOrigins (threads.set scheduled updated)) ∧
      Linked perform agree (threads.set scheduled updated) state
        (execAll perform order' initial) := by
  have hlength : scheduled < threads.length := (List.getElem?_eq_some_iff.mp hthread).1
  have hserial := invariant_execAll (admissible_of_finished hadmissible horder) hinitial
  have hnoop : agree (execAll perform order initial)
      (updated.origin.exec perform (execAll perform order initial)).2 := by
    obtain ⟨origin, rest, opened⟩ := updated
    cases rest with
    | done result => exact hprelude _ hserial
    | issue op next => simp [Thread.finished] at hafter
  have hset (other : ℕ) (another : Thread Op Reply Result) (hne : other ≠ scheduled)
      (h : (threads.set scheduled updated)[other]? = some another) :
      threads[other]? = some another := by
    rwa [List.getElem?_set_ne (Ne.symm hne)] at h
  have hself (another : Thread Op Reply Result)
      (h : (threads.set scheduled updated)[scheduled]? = some another) :
      another.inside = false := by
    rw [List.getElem?_set_self hlength] at h
    obtain rfl := Option.some.inj h
    simp [Thread.inside, hafter]
  refine ⟨order ++ [updated.origin], (horder.append_right _).trans
    (finishedOrigins_set_of_finished hthread hunfinished hafter).symm, ?_⟩
  rw [execAll_concat]
  rcases hlinked with ⟨houtside, hagree⟩ | ⟨position, inner, hinner, hinside, hothers, hagree⟩
  · refine Or.inl ⟨fun position another h ↦ ?_, hequivalence.trans hagree hnoop⟩
    by_cases hposition : position = scheduled
    · subst hposition
      exact hself another h
    · exact houtside position another (hset position another hposition h)
  · have hposition : position ≠ scheduled := by
      rintro rfl
      rw [hthread] at hinner
      obtain rfl := Option.some.inj hinner
      rw [hbefore] at hinside
      cases hinside
    have hrespects := (hadmissible inner (List.mem_of_getElem? hinner)).respects _ _ hserial
      ((horigin ▸ hadmissible thread (List.mem_of_getElem? hthread)).keeps.exec hserial) hnoop
    refine Or.inr ⟨position, inner, ?_, hinside, fun other another hother h ↦ ?_,
      hequivalence.trans hagree hrespects⟩
    · rwa [List.getElem?_set_ne (Ne.symm hposition)]
    · by_cases hscheduled : other = scheduled
      · subst hscheduled
        exact hself another h
      · exact hothers other another hother (hset other another hscheduled h)

/-- A thread that stays outside its section and does not finish changes nothing. -/
theorem linked_of_outside {threads : List (Thread Op Reply Result)} {scheduled : ℕ}
    {thread updated : Thread Op Reply Result} {state serial : State}
    (hlinked : Linked perform agree threads state serial)
    (hthread : threads[scheduled]? = some thread) (hbefore : thread.inside = false)
    (hafter : updated.inside = false) :
    Linked perform agree (threads.set scheduled updated) state serial := by
  have hlength : scheduled < threads.length := (List.getElem?_eq_some_iff.mp hthread).1
  have houtside (position : ℕ) (another : Thread Op Reply Result)
      (h : (threads.set scheduled updated)[position]? = some another)
      (hother : position ≠ scheduled → threads[position]? = some another → another.inside = false) :
      another.inside = false := by
    by_cases hposition : position = scheduled
    · subst hposition
      rw [List.getElem?_set_self hlength] at h
      obtain rfl := Option.some.inj h
      exact hafter
    · rw [List.getElem?_set_ne (Ne.symm hposition)] at h
      exact hother hposition h
  rcases hlinked with ⟨hnone, hagree⟩ | ⟨position, inner, hinner, hinside, hothers, hagree⟩
  · exact Or.inl ⟨fun position another h ↦
      houtside position another h fun _ hthread ↦ hnone position another hthread, hagree⟩
  · have hposition : position ≠ scheduled := by
      rintro rfl
      rw [hthread] at hinner
      obtain rfl := Option.some.inj hinner
      rw [hbefore] at hinside
      cases hinside
    refine Or.inr ⟨position, inner, ?_, hinside, fun other another hother h ↦ ?_, hagree⟩
    · rwa [List.getElem?_set_ne (Ne.symm hposition)]
    · exact houtside other another h fun _ hthread ↦ hothers other another hother hthread

/-- One exclusive step keeps the invariant. -/
theorem Serial.step (hequivalence : Equivalence agree) (hinitial : invariant initial)
    {pool after : Pool Op Reply Result State} {scheduled : ℕ}
    (hserial : Serial perform opens agree invariant initial pool)
    (hexclusive : (pool.opensSection opens scheduled && pool.occupied scheduled) = false)
    (hstep : pool.step perform opens scheduled = some after) :
    Serial perform opens agree invariant initial after := by
  obtain ⟨origin, op, next, opened, hthread, rfl⟩ := Pool.step_eq_some hstep
  have hmem := List.mem_of_getElem? hthread
  have hadmissible := hserial.admissible _ hmem
  obtain ⟨hinvariant, hkeeps⟩ := hserial.keeps _ hmem pool.state hserial.state_invariant
  have hunfinished : (Thread.mk origin (.issue op next) opened).finished = false := rfl
  -- the invariants of the threads, and the prelude of the scheduled one
  have hadmissibleAfter : ∀ thread ∈ pool.threads.set scheduled
      ⟨origin, next (perform op pool.state).1, opened || opens op⟩,
      Admissible perform opens agree invariant thread.origin := by
    intro thread hset
    rcases List.mem_or_eq_of_mem_set hset with h | rfl
    · exact hserial.admissible thread h
    · exact hadmissible
  have hkeepsAfter : ∀ thread ∈ pool.threads.set scheduled
      ⟨origin, next (perform op pool.state).1, opened || opens op⟩,
      thread.rest.Keeps perform invariant := by
    intro thread hset
    rcases List.mem_or_eq_of_mem_set hset with h | rfl
    · exact hserial.keeps thread h
    · exact hkeeps
  have hwaitingAfter (hnext : (opened || opens op) = false →
      Prelude perform opens agree invariant origin (next (perform op pool.state).1)) :
      ∀ thread ∈ pool.threads.set scheduled
        ⟨origin, next (perform op pool.state).1, opened || opens op⟩, thread.opened = false →
        Prelude perform opens agree invariant thread.origin thread.rest := by
    intro thread hset hclosed
    rcases List.mem_or_eq_of_mem_set hset with h | rfl
    · exact hserial.waiting thread h hclosed
    · exact hnext hclosed
  obtain ⟨order, horder, hlinked⟩ := hserial.linked
  have hserialInvariant :=
    invariant_execAll (admissible_of_finished hserial.admissible horder) hinitial
  cases opened with
  | true =>
      refine ⟨hinvariant, hadmissibleAfter, hkeepsAfter, hwaitingAfter (by simp), ?_⟩
      have hinside : (Thread.mk origin (.issue op next) true).inside = true := rfl
      rcases hlinked with ⟨hnone, -⟩ | ⟨position, inner, hinner, -, hothers, hagree⟩
      · rw [hnone scheduled _ hthread] at hinside
        cases hinside
      · obtain rfl : scheduled = position := by
          by_contra hne
          rw [hothers scheduled _ hne hthread] at hinside
          cases hinside
        rw [hthread] at hinner
        obtain rfl := Option.some.inj hinner
        exact linked_of_inside horder rfl hthread hunfinished rfl hothers hagree
  | false =>
      have hprelude := hserial.waiting _ hmem rfl
      have houtside : (Thread.mk origin (.issue op next) false).inside = false := rfl
      cases hopens : opens op with
      | true =>
          refine ⟨hinvariant, hopens ▸ hadmissibleAfter, hopens ▸ hkeepsAfter,
            hopens ▸ hwaitingAfter (by simp [hopens]), ?_⟩
          have hothers := Pool.others_outside hexclusive hthread hopens
          simp only [Prelude, hopens, if_true] at hprelude
          rcases hlinked with ⟨-, hagree⟩ | ⟨position, inner, hinner, hinside, -, -⟩
          · apply linked_of_inside horder rfl hthread hunfinished rfl hothers
            exact hequivalence.trans (hprelude _ hserial.state_invariant)
              (hadmissible.respects _ _ hserial.state_invariant hserialInvariant hagree)
          · exfalso
            by_cases hposition : position = scheduled
            · subst hposition
              rw [hthread] at hinner
              obtain rfl := Option.some.inj hinner
              rw [houtside] at hinside
              cases hinside
            · rw [hothers position inner hposition hinner] at hinside
              cases hinside
      | false =>
          simp only [Prelude, hopens, Bool.false_eq_true, if_false] at hprelude
          obtain ⟨hread, hnext⟩ := hprelude _ hserial.state_invariant
          refine ⟨hinvariant, hopens ▸ hadmissibleAfter, hopens ▸ hkeepsAfter,
            hopens ▸ hwaitingAfter fun _ ↦ hnext, ?_⟩
          simp only [hread]
          by_cases hafter :
              (Thread.mk origin (next (perform op pool.state).1) false).finished = true
          · exact linked_of_finished_outside hequivalence hinitial hserial.admissible horder hlinked
              hthread houtside hunfinished rfl hafter hnext
          · rw [Bool.not_eq_true] at hafter
            have hsame := finishedOrigins_set_of_unfinished hthread hunfinished hafter
            exact ⟨order, horder.trans (List.Perm.of_eq hsame.symm),
              linked_of_outside hlinked hthread houtside rfl⟩

theorem Pool.step_origins {pool after : Pool Op Reply Result State} {scheduled : ℕ}
    (h : pool.step perform opens scheduled = some after) :
    after.threads.map Thread.origin = pool.threads.map Thread.origin := by
  obtain ⟨origin, op, next, opened, hthread, rfl⟩ := Pool.step_eq_some h
  have hmapped : (pool.threads.map Thread.origin)[scheduled]? = some origin := by
    rw [List.getElem?_map, hthread]
    rfl
  obtain ⟨hlength, horigin⟩ := List.getElem?_eq_some_iff.mp hmapped
  rw [List.map_set]
  simp only [← horigin, List.set_getElem_self]

/-- An exclusive run keeps the invariant and the programs. -/
theorem Serial.run (hequivalence : Equivalence agree) (hinitial : invariant initial)
    {pool after : Pool Op Reply Result State} {schedule : List ℕ}
    (hserial : Serial perform opens agree invariant initial pool)
    (hexclusive : pool.exclusive perform opens schedule = true)
    (hrun : pool.run perform opens schedule = some after) :
    Serial perform opens agree invariant initial after ∧
      after.threads.map Thread.origin = pool.threads.map Thread.origin := by
  induction schedule generalizing pool with
  | nil =>
      obtain rfl : pool = after := by simpa [Pool.run] using hrun
      exact ⟨hserial, rfl⟩
  | cons scheduled schedule ih =>
      simp only [Pool.run, List.foldlM_cons, Option.bind_eq_bind, Option.bind_eq_some_iff] at hrun
      obtain ⟨middle, hstep, hrest⟩ := hrun
      rw [Pool.exclusive, hstep, Bool.and_eq_true, Bool.not_eq_true'] at hexclusive
      obtain ⟨hfirst, hlater⟩ := hexclusive
      obtain ⟨hfinal, horigins⟩ := ih (hserial.step hequivalence hinitial hfirst hstep) hlater hrest
      exact ⟨hfinal, horigins.trans (Pool.step_origins hstep)⟩

/-- Programs that have nothing to do leave the state as it is. -/
theorem execAll_finished_start (programs : List (AtomicProgram Op Reply Result)) :
    execAll perform (finishedOrigins (programs.map Thread.start)) initial = initial := by
  induction programs with
  | nil => rfl
  | cons program programs ih =>
      cases program with
      | done result => exact ih
      | issue op next => exact ih

theorem serial_start (hequivalence : Equivalence agree) (hinitial : invariant initial)
    {programs : List (AtomicProgram Op Reply Result)}
    (hadmissible : ∀ program ∈ programs, Admissible perform opens agree invariant program) :
    Serial perform opens agree invariant initial (Pool.start programs initial) := by
  have hstart : ∀ thread ∈ (Pool.start programs initial).threads,
      ∃ program ∈ programs, thread = Thread.start program := by
    intro thread hthread
    obtain ⟨program, hprogram, rfl⟩ := List.mem_map.mp hthread
    exact ⟨program, hprogram, rfl⟩
  refine ⟨hinitial, ?_, ?_, ?_, finishedOrigins (Pool.start programs initial).threads,
    List.Perm.refl _, Or.inl ⟨?_, ?_⟩⟩
  · intro thread hthread
    obtain ⟨program, hprogram, rfl⟩ := hstart thread hthread
    exact hadmissible program hprogram
  · intro thread hthread
    obtain ⟨program, hprogram, rfl⟩ := hstart thread hthread
    exact (hadmissible program hprogram).keeps
  · intro thread hthread _
    obtain ⟨program, hprogram, rfl⟩ := hstart thread hthread
    exact (hadmissible program hprogram).prelude
  · intro position thread hthread
    obtain ⟨program, -, rfl⟩ := hstart thread (List.mem_of_getElem? hthread)
    rfl
  · have hserial : execAll perform (finishedOrigins (Pool.start programs initial).threads) initial =
        initial := execAll_finished_start programs
    rw [hserial]
    exact hequivalence.refl initial

/-- **Exclusive sections serialise.** A run without overlapping sections, in which every program
finishes, agrees with running the programs one after another in some order. -/
theorem exists_serial_order (hequivalence : Equivalence agree) (hinitial : invariant initial)
    {programs : List (AtomicProgram Op Reply Result)}
    (hadmissible : ∀ program ∈ programs, Admissible perform opens agree invariant program)
    {final : State} {schedule : List ℕ}
    (hexclusive : (Pool.start programs initial).exclusive perform opens schedule = true)
    (houtcome : (Pool.start programs initial).outcome perform opens schedule = some final) :
    ∃ order : List (AtomicProgram Op Reply Result),
      order.Perm programs ∧ agree final (execAll perform order initial) := by
  obtain ⟨after, hrun, hfinal⟩ := Option.bind_eq_some_iff.mp houtcome
  have hfinished : ∀ thread ∈ after.threads, thread.finished = true := by
    by_contra h
    rw [← List.all_eq_true] at h
    rw [if_neg h] at hfinal
    cases hfinal
  obtain rfl : after.state = final := by
    rw [if_pos (List.all_eq_true.mpr hfinished)] at hfinal
    exact Option.some.inj hfinal
  have hstart := serial_start hequivalence hinitial hadmissible
  obtain ⟨hserial, horigins⟩ := hstart.run hequivalence hinitial hexclusive hrun
  obtain ⟨order, horder, hlinked⟩ := hserial.linked
  have hall : finishedOrigins after.threads = programs := by
    rw [finishedOrigins, List.filter_eq_self.mpr hfinished, horigins]
    simp only [Pool.start, List.map_map]
    exact List.map_id programs
  refine ⟨order, hall ▸ horder, ?_⟩
  rcases hlinked with ⟨-, hagree⟩ | ⟨position, thread, hthread, hinside, -, -⟩
  · exact hagree
  · simp [Thread.inside, hfinished thread (List.mem_of_getElem? hthread)] at hinside

end Serial

end EdgeDeviceCore.Semantics.ExclusiveSections
