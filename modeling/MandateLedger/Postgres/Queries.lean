import MandateLedger.Postgres.Database
import Mathlib.Data.List.Sort

namespace MandateLedger.Postgres

open MandateLedger.Core MandateLedger.Data

/-- `i64::MAX`, the largest `BIGINT`. -/
def maxBigint : Nat := 2 ^ 63 - 1

/-- `bigint`: a count or a sequence number as a parameter. -/
def bigint (value : Nat) : Nat := min value maxBigint

theorem bigint_of_le {value : Nat} (small : value ≤ maxBigint) : bigint value = value :=
  Nat.min_eq_left small

/-- `ORDER BY seq`. -/
def bySeq (events : List Event) : List Event :=
  events.insertionSort fun first second => first.seq ≤ second.seq

namespace Tables

/-- `WHERE seq > $1 ORDER BY seq LIMIT $2`. -/
def eventsAfter (tables : Tables) (after limit : Nat) : List Event :=
  (bySeq (tables.events.filter fun event => bigint after < event.seq)).take (bigint limit)

end Tables

def Ascending (events : List Event) : Prop :=
  events.Pairwise fun first second => first.seq < second.seq

namespace Ascending

variable {events : List Event}

theorem bySeq_eq (ascending : Ascending events) : bySeq events = events :=
  List.Pairwise.insertionSort_eq (ascending.imp fun less => less.le)

theorem filter (ascending : Ascending events) (keeps : Event → Bool) :
    Ascending (events.filter keeps) := List.Pairwise.filter keeps ascending

theorem append {event : Event} (ascending : Ascending events)
    (last : ∀ other ∈ events, other.seq < event.seq) : Ascending (events ++ [event]) := by
  refine List.pairwise_append.mpr ⟨ascending, List.pairwise_singleton _ _, ?_⟩
  intro other listed final same
  rw [List.mem_singleton.mp same]
  exact last other listed

theorem latest_eq (ascending : Ascending events) : latest events = events.getLast? := by
  induction events using List.reverseRecOn with
  | nil => rfl
  | append_singleton rest event ih =>
      obtain ⟨earlier, -, last⟩ := List.pairwise_append.mp ascending
      have before := ih earlier
      unfold latest at before ⊢
      rw [List.foldl_append, before, List.getLast?_append, List.getLast?_singleton]
      cases found : rest.getLast? with
      | none => rfl
      | some other =>
          have below := last other (List.mem_of_getLast? found) event (List.mem_singleton_self _)
          simp [below]

end Ascending

end MandateLedger.Postgres
