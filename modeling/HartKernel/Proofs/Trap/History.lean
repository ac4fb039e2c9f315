import HartKernel.Trap.Diagnostics
import Mathlib.Algebra.Group.Fin.Basic
import Mathlib.Algebra.Group.Nat.Defs
import Mathlib.Data.List.Induction
import Mathlib.Data.List.OfFn

/-!
# What the diagnostics tell about past traps

The two places in which a trap is stored are locked and unlocked while traps go on, each for itself,
and the ring of recent traps is written at a position that wraps around. What this comes to is told
here without positions and without the state: from what has been done (`Event`), read off which
traps were recorded and which locks were held then (`recordings`). The history has the traps that
found the ring free, the last place those that found the last place free, and the count those that
found either one locked.

* `TrapHistory.toList_oldestFirst_ofList`: stored in turn, traps leave the last sixteen of them
  behind, after empty slots as long as there are not that many. The ring is a window that moves on
  by one slot for each trap (`toList_oldestFirst_push`).
* `Diagnostics.Accounts` relates a state to the recordings that led to it. A recording extends it
  (`Accounts.record`), a lock leaves it as it is (`Accounts.hold`), and so it holds after every run
  (`accounts_run`).
* `Diagnostics.run_tells_history` puts these together: what every reader is told at every point.
-/

namespace HartKernel

namespace TrapHistory

/-! ### The ring as a window -/

theorem getElem_oldestFirst (history : TrapHistory) (i : Fin 16) :
    history.oldestFirst[i] = history.slots[history.next + i] := by
  simp [oldestFirst]

theorem oldestFirst_push_last (history : TrapHistory) (info : TrapInfo) :
    (history.push info).oldestFirst[Fin.last 15] = some info := by
  -- The newest slot is the one before the oldest, all the way round.
  have hwrap : history.next + 1 + Fin.last 15 = history.next := by
    rw [add_assoc]
    exact add_zero _
  rw [getElem_oldestFirst, push, hwrap]
  exact Vector.getElem_set_self history.next.isLt

theorem oldestFirst_push_castSucc (history : TrapHistory) (info : TrapInfo) (i : Fin 15) :
    (history.push info).oldestFirst[i.castSucc] = history.oldestFirst[i.succ] := by
  have hslot : history.next + 1 + i.castSucc = history.next + i.succ := by
    rw [add_assoc, add_comm 1, Fin.coeSucc_eq_succ]
  have hne : history.next.val ≠ (history.next + i.succ).val := by
    intro h
    have hzero : history.next = history.next + i.succ := Fin.ext h
    rw [left_eq_add] at hzero
    exact Fin.succ_ne_zero i hzero
  rw [getElem_oldestFirst, getElem_oldestFirst, push, hslot]
  exact Vector.getElem_set_ne history.next.isLt (history.next + i.succ).isLt hne

theorem toList_oldestFirst (history : TrapHistory) :
    history.oldestFirst.toList = List.ofFn fun i : Fin 16 => history.oldestFirst[i] := by
  rw [oldestFirst, Vector.toList_ofFn]
  simp only [getElem_position, Vector.getElem_ofFn]

theorem toList_oldestFirst_push (history : TrapHistory) (info : TrapInfo) :
    (history.push info).oldestFirst.toList = history.oldestFirst.toList.tail ++ [some info] := by
  have htail : history.oldestFirst.toList.tail =
      List.ofFn fun i : Fin 15 => history.oldestFirst[i.succ] := by
    rw [toList_oldestFirst, List.ofFn_succ, List.tail_cons]
  rw [htail, toList_oldestFirst, List.ofFn_succ', List.concat_eq_append, oldestFirst_push_last]
  simp only [oldestFirst_push_castSucc]

/-- The history in which traps have been stored in turn. -/
def ofList (infos : List TrapInfo) : TrapHistory :=
  infos.foldl push empty

theorem ofList_append_singleton (infos : List TrapInfo) (info : TrapInfo) :
    ofList (infos ++ [info]) = (ofList infos).push info := by
  rw [ofList, ofList, List.foldl_append]
  rfl

theorem next_ofList (infos : List TrapInfo) :
    ((ofList infos).next : Nat) = infos.length % length := by
  induction infos using List.reverseRecOn with
  | nil => rfl
  | append_singleton infos info ih =>
    rw [ofList_append_singleton, push, Fin.val_add, ih, List.length_append]
    exact Nat.mod_add_mod infos.length 16 1

/-- The window starts over empty slots and moves on with every trap. -/
theorem toList_oldestFirst_ofList_eq_drop (infos : List TrapInfo) :
    (ofList infos).oldestFirst.toList =
      (List.replicate length none ++ infos.map some).drop infos.length := by
  induction infos using List.reverseRecOn with
  | nil => rfl
  | append_singleton infos info ih =>
    have hle : infos.length + 1 ≤ (List.replicate length none ++ infos.map some).length := by
      have hlength : 1 ≤ length := by decide
      rw [List.length_append, List.length_replicate, List.length_map]
      omega
    rw [ofList_append_singleton, toList_oldestFirst_push, ih, List.tail_drop, List.map_append,
      ← List.append_assoc, List.length_append, List.length_singleton,
      List.drop_append_of_le_length hle]
    rfl

/-- Traps that are stored in turn leave the last sixteen of them, oldest first. -/
theorem toList_oldestFirst_ofList (infos : List TrapInfo) :
    (ofList infos).oldestFirst.toList =
      List.replicate (length - min length infos.length) none ++
        (infos.drop (infos.length - min length infos.length)).map some := by
  have hempty : length - infos.length = length - min length infos.length := by omega
  have hlost : infos.length - length = infos.length - min length infos.length := by omega
  rw [toList_oldestFirst_ofList_eq_drop, List.drop_append, List.drop_replicate,
    List.length_replicate, List.map_drop, hempty, hlost]

theorem oldestFirst_ofList_last (infos : List TrapInfo) :
    (ofList infos).oldestFirst[Fin.last 15] = infos.getLast? := by
  induction infos using List.reverseRecOn with
  | nil => rfl
  | append_singleton infos info _ =>
    rw [ofList_append_singleton, oldestFirst_push_last, List.getLast?_append]
    rfl

end TrapHistory

/-- The locks on the places in which a trap is stored, and whether they are held. -/
structure Locks where
  last : Bool
  history : Bool
  deriving DecidableEq, Repr

def Locks.free : Locks :=
  { last := false, history := false }

namespace Diagnostics

/-! ### What has been done, and what has been recorded -/

/-- What is done to the diagnostics. -/
inductive Event where
  | record (info : TrapInfo)
  /-- From now on exactly these locks are held. -/
  | hold (locks : Locks)
  /-- From now on no lock is held. -/
  | release
  deriving DecidableEq, Repr

def apply (diagnostics : Diagnostics) : Event → Diagnostics
  | .record info => diagnostics.record info
  | .hold locks => diagnostics.hold locks.last locks.history
  | .release => diagnostics.release

/-- The diagnostics after a sequence of events, from the start. -/
def run (events : List Event) : Diagnostics :=
  events.foldl apply empty

/-- The locks that are held after an event, given those that were held before it. -/
def Event.locksAfter (locks : Locks) : Event → Locks
  | record _ => locks
  | hold locks => locks
  | release => .free

/-- The locks that are held after a sequence of events. -/
def heldAfter (events : List Event) : Locks :=
  events.foldl Event.locksAfter .free

/-- The traps that are recorded in a sequence of events, each with the locks that are held at the
time. -/
def recordings (locks : Locks) : List Event → List (TrapInfo × Locks)
  | [] => []
  | .record info :: events => (info, locks) :: recordings locks events
  | event :: events => recordings (event.locksAfter locks) events

/-- The traps that were recorded under a condition on the locks. -/
def recordedWhile (condition : Locks → Bool) (recorded : List (TrapInfo × Locks)) : List TrapInfo :=
  (recorded.filter fun entry => condition entry.2).map Prod.fst

/-- The recorded traps that found the ring free. -/
def inHistory (events : List Event) : List TrapInfo :=
  recordedWhile (fun locks => !locks.history) (recordings .free events)

/-- The recorded traps that found the place of the last trap free. -/
def asLast (events : List Event) : List TrapInfo :=
  recordedWhile (fun locks => !locks.last) (recordings .free events)

/-- The recorded traps that found one of the two places locked, or both. -/
def missed (events : List Event) : List TrapInfo :=
  recordedWhile (fun locks => locks.last || locks.history) (recordings .free events)

theorem recordedWhile_append_singleton (condition : Locks → Bool)
    (recorded : List (TrapInfo × Locks)) (info : TrapInfo) (locks : Locks) :
    recordedWhile condition (recorded ++ [(info, locks)]) =
      if condition locks then recordedWhile condition recorded ++ [info]
      else recordedWhile condition recorded := by
  unfold recordedWhile
  rw [List.filter_append, List.map_append]
  cases h : condition locks <;> simp [h]

/-! ### Events -/

def locks (diagnostics : Diagnostics) : Locks :=
  { last := diagnostics.lastHeld, history := diagnostics.historyHeld }

/-! ### One recording -/

/-- Diagnostics before and after a trap has been recorded, whichever locks are held. -/
structure Records (info : TrapInfo) (before after : Diagnostics) : Prop where
  lastFree : before.lastHeld = false → after.last = some info
  lastHeld : before.lastHeld = true → after.last = before.last
  /-- The oldest of sixteen slots gives way to this trap, which comes last. -/
  recentFree : before.historyHeld = false →
    after.recent.toList = before.recent.toList.tail ++ [some info]
  nextFree : before.historyHeld = false → after.history.next = before.history.next + 1
  historyHeld : before.historyHeld = true → after.history = before.history
  /-- A trap that was not stored everywhere is counted. -/
  counted : before.lastHeld = true ∨ before.historyHeld = true →
    after.dropped.toNat = (before.dropped.toNat + 1) % 2 ^ 64
  stored : before.lastHeld = false → before.historyHeld = false → after.dropped = before.dropped
  locks : after.locks = before.locks

theorem records_record (diagnostics : Diagnostics) (info : TrapInfo) :
    Records info diagnostics (diagnostics.record info) := by
  have hlast : (diagnostics.record info).last =
      if diagnostics.lastHeld then diagnostics.last else some info := rfl
  have hhistory : (diagnostics.record info).history =
      if diagnostics.historyHeld then diagnostics.history
      else diagnostics.history.push info := rfl
  have hdropped : (diagnostics.record info).dropped =
      if diagnostics.lastHeld || diagnostics.historyHeld then diagnostics.dropped + 1
      else diagnostics.dropped := rfl
  have hpushed (h : diagnostics.historyHeld = false) :
      (diagnostics.record info).history = diagnostics.history.push info := by
    rw [hhistory, h, if_neg Bool.false_ne_true]
  refine ⟨?_, ?_, ?_, ?_, ?_, ?_, ?_, rfl⟩
  · intro h
    rw [hlast, h, if_neg Bool.false_ne_true]
  · intro h
    rw [hlast, if_pos h]
  · intro h
    rw [recent, hpushed h, TrapHistory.toList_oldestFirst_push]
    rfl
  · intro h
    rw [hpushed h]
    rfl
  · intro h
    rw [hhistory, if_pos h]
  · intro h
    have heither : (diagnostics.lastHeld || diagnostics.historyHeld) = true :=
      (Bool.or_eq_true ..).mpr h
    rw [hdropped, if_pos heither, BitVec.toNat_add]
    rfl
  · intro hlastFree hhistoryFree
    rw [hdropped, hlastFree, hhistoryFree, Bool.or_self, if_neg Bool.false_ne_true]

/-! ### All recordings -/

/-- The places and the count are what the recorded traps come to. -/
structure Accounts (recorded : List (TrapInfo × Locks)) (diagnostics : Diagnostics) : Prop where
  last : diagnostics.last = (recordedWhile (fun locks => !locks.last) recorded).getLast?
  history : diagnostics.history = .ofList (recordedWhile (fun locks => !locks.history) recorded)
  dropped : diagnostics.dropped =
    BitVec.ofNat 64 (recordedWhile (fun locks => locks.last || locks.history) recorded).length

theorem accounts_empty : Accounts [] empty :=
  ⟨rfl, rfl, rfl⟩

theorem locks_apply (diagnostics : Diagnostics) (event : Event) :
    (diagnostics.apply event).locks = event.locksAfter diagnostics.locks := by
  cases event <;> rfl

variable {recorded : List (TrapInfo × Locks)} {diagnostics : Diagnostics}

theorem Accounts.record (h : Accounts recorded diagnostics) (info : TrapInfo) :
    Accounts (recorded ++ [(info, diagnostics.locks)]) (diagnostics.record info) := by
  obtain ⟨hlast, hhistory, hdropped⟩ := h
  -- Each place asks for its own lock, and the count for both.
  refine ⟨?_, ?_, ?_⟩
  · rw [recordedWhile_append_singleton, Diagnostics.record, hlast, locks]
    cases diagnostics.lastHeld with
    | true => rfl
    | false => exact List.getLast?_concat.symm
  · rw [recordedWhile_append_singleton, Diagnostics.record, hhistory, locks]
    cases diagnostics.historyHeld with
    | true => rfl
    | false => exact (TrapHistory.ofList_append_singleton ..).symm
  · rw [recordedWhile_append_singleton, Diagnostics.record, hdropped, locks]
    cases hheld : diagnostics.lastHeld || diagnostics.historyHeld with
    | false => simp only [Bool.false_eq_true, if_false]
    | true =>
      simp only [if_true, List.length_append, List.length_singleton]
      exact (BitVec.ofNat_add _ _).symm

theorem Accounts.hold (h : Accounts recorded diagnostics) (last history : Bool) :
    Accounts recorded (diagnostics.hold last history) :=
  ⟨h.last, h.history, h.dropped⟩

theorem Accounts.foldl_apply (h : Accounts recorded diagnostics) (events : List Event) :
    Accounts (recorded ++ recordings diagnostics.locks events)
      (events.foldl apply diagnostics) := by
  induction events generalizing recorded diagnostics with
  | nil =>
    rw [recordings, List.append_nil]
    exact h
  | cons event events ih =>
    rw [List.foldl_cons]
    cases event with
    | record info =>
      have hrest := ih (h.record info)
      rw [List.append_assoc] at hrest
      exact hrest
    | hold locks => exact ih (h.hold locks.last locks.history)
    | release => exact ih (h.hold false false)

theorem accounts_run (events : List Event) :
    Accounts (recordings .free events) (run events) :=
  accounts_empty.foldl_apply events

theorem locks_run (events : List Event) : (run events).locks = heldAfter events := by
  induction events using List.reverseRecOn with
  | nil => rfl
  | append_singleton events event ih =>
    rw [run, heldAfter, List.foldl_append, List.foldl_append]
    show ((run events).apply event).locks = event.locksAfter (heldAfter events)
    rw [locks_apply, ih]

/-! ### What the readers are told -/

theorem free_of_mem_recordings {events : List Event}
    (h : ∀ locks, Event.hold locks ∈ events → locks = .free) :
    ∀ entry ∈ recordings .free events, entry.2 = .free := by
  induction events with
  | nil =>
    intro entry hentry
    cases hentry
  | cons event events ih =>
    have hrest := ih fun locks hlocks => h locks (List.mem_cons_of_mem _ hlocks)
    cases event with
    | record info =>
      intro entry hentry
      rcases List.mem_cons.mp hentry with rfl | hentry
      · rfl
      · exact hrest entry hentry
    | hold locks =>
      obtain rfl := h locks List.mem_cons_self
      exact hrest
    | release => exact hrest

theorem inHistory_eq_asLast {events : List Event}
    (h : ∀ locks, Event.hold locks ∈ events → locks = .free) :
    inHistory events = asLast events := by
  have hfree := free_of_mem_recordings h
  -- Both conditions are tried on free locks only, and there they agree.
  unfold inHistory asLast recordedWhile
  congr 1
  apply List.filter_congr
  intro entry hentry
  rw [hfree entry hentry]
  rfl

/-- What every reader of the diagnostics is told after a sequence of events. -/
structure Tells (events : List Event) (diagnostics : Diagnostics) : Prop where
  next : diagnostics.history.next.val = (inHistory events).length % 16
  /-- Empty slots, and after them the last sixteen traps that found the ring free, or all of them,
  oldest first. -/
  recent : diagnostics.recent.toList =
    List.replicate (16 - min 16 (inHistory events).length) none ++
      ((inHistory events).drop
        ((inHistory events).length - min 16 (inHistory events).length)).map some
  recentIfFree : diagnostics.recentIfFree =
    if (heldAfter events).history then none else some diagnostics.recent
  last : diagnostics.last = (asLast events).getLast?
  lastIfFree : diagnostics.lastIfFree =
    if (heldAfter events).last then none else (asLast events).getLast?
  dropped : diagnostics.dropped.toNat = (missed events).length % 2 ^ 64
  /-- A trap does not reach a place that is locked. -/
  record_last : (heldAfter events).last = true →
    ∀ info, (diagnostics.record info).last = diagnostics.last
  record_history : (heldAfter events).history = true →
    ∀ info, (diagnostics.record info).history = diagnostics.history
  /-- Without locks the two places never disagree about the newest trap. -/
  newest : (∀ locks, Event.hold locks ∈ events → locks = .free) →
    diagnostics.recent[15] = diagnostics.last

/-- **The diagnostics tell the history.** At every point of every sequence of recordings, while
locks are taken and released at any time, the readers find in each place the newest of the traps
that found it free, and the count is the number of those that did not find both free. -/
theorem run_tells_history (events : List Event) : Tells events (run events) := by
  obtain ⟨hlast, hhistory, hdropped⟩ := accounts_run events
  have hlocks := locks_run events
  have hlastHeld : (run events).lastHeld = (heldAfter events).last := by
    rw [← hlocks]
    rfl
  have hhistoryHeld : (run events).historyHeld = (heldAfter events).history := by
    rw [← hlocks]
    rfl
  refine ⟨?_, ?_, ?_, hlast, ?_, ?_, ?_, ?_, ?_⟩
  · rw [hhistory]
    exact TrapHistory.next_ofList _
  · rw [recent, hhistory]
    exact TrapHistory.toList_oldestFirst_ofList _
  · rw [recentIfFree, hhistoryHeld]
  · rw [lastIfFree, hlastHeld, hlast]
    rfl
  · rw [hdropped, BitVec.toNat_ofNat]
    rfl
  · intro hheld info
    rw [Diagnostics.record, hlastHeld, hheld, if_pos rfl]
  · intro hheld info
    rw [Diagnostics.record, hhistoryHeld, hheld, if_pos rfl]
  · intro hfree
    rw [hlast, recent, hhistory]
    show (TrapHistory.ofList (inHistory events)).oldestFirst[Fin.last 15] = (asLast events).getLast?
    rw [TrapHistory.oldestFirst_ofList_last, inHistory_eq_asLast hfree]

end Diagnostics

end HartKernel
