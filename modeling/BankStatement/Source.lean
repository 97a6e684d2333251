/-!
# Byte sources

A source hands out bytes when it is read, or fails.  How many bytes a read gives is up to the source
and not to its reader, so a source is the list of what its reads will deliver.
-/

namespace BankStatement

/-- What a read meets: at least one byte, or a failure with a message. -/
inductive Delivery where
  | bytes (head : UInt8) (tail : List UInt8)
  | failure (message : String)
deriving DecidableEq, Repr

/-- The deliveries of a source, in order; after the last one the source is at its end. -/
abbrev Source := List Delivery

namespace Source

/-- A read of at most `limit` bytes.  No bytes mean the end of the source.  What a read leaves of a
delivery comes first in the next one, and a failure is met once. -/
def read (limit : Nat) : Source → Except String (List UInt8) × Source
  | [] => (.ok [], [])
  | .failure message :: rest => (.error message, rest)
  | .bytes head tail :: rest =>
      match (head :: tail).drop limit with
      | [] => (.ok (head :: tail), rest)
      | next :: more => (.ok ((head :: tail).take limit), .bytes next more :: rest)

/-- How many bytes and failures are still to come. -/
def size : Source → Nat
  | [] => 0
  | .failure _ :: rest => 1 + size rest
  | .bytes _ tail :: rest => tail.length + 1 + size rest

/-- What a read takes away. -/
theorem size_read (limit : Nat) (source : Source) :
    (source.read limit).2.size + (match (source.read limit).1 with
      | .ok got => got.length
      | .error _ => 1) = source.size := by
  match source with
  | [] => rfl
  | .failure _ :: rest => simp [read, size, Nat.add_comm]
  | .bytes head tail :: rest =>
      have hwhole := congrArg List.length (List.take_append_drop limit (head :: tail))
      simp only [read]
      split <;> rename_i hleft
      · simp only [size, List.length_cons]
        omega
      · rw [hleft] at hwhole
        simp only [List.length_append, List.length_cons] at hwhole
        simp only [size]
        omega

/-! ## What a source holds -/

/-- All the bytes that a source delivers. -/
def bytes : Source → List UInt8
  | [] => []
  | .failure _ :: rest => bytes rest
  | .bytes head tail :: rest => head :: tail ++ bytes rest

/-- Whether a source delivers its bytes without a failure among them. -/
def NeverFails (source : Source) : Prop :=
  ∀ message, .failure message ∉ source

@[simp] theorem bytes_nil : bytes [] = [] := rfl

/-- A read takes bytes off the front. -/
theorem bytes_read {limit : Nat} {source rest : Source} {got : List UInt8}
    (h : source.read limit = (.ok got, rest)) : source.bytes = got ++ rest.bytes := by
  match source with
  | [] =>
      simp only [read, Prod.mk.injEq, Except.ok.injEq] at h
      rw [← h.1, ← h.2]
      rfl
  | .failure _ :: _ => simp [read] at h
  | .bytes head tail :: others =>
      have hwhole := List.take_append_drop limit (head :: tail)
      simp only [read] at h
      split at h <;> rename_i hleft <;> simp only [Prod.mk.injEq, Except.ok.injEq] at h
      · rw [← h.1, ← h.2]
        rfl
      · rw [hleft] at hwhole
        rw [← h.1, ← h.2, bytes, bytes, ← List.append_assoc, hwhole]

/-- Only a source at its end gives no bytes. -/
theorem read_nil {limit : Nat} {source rest : Source} (hlimit : 0 < limit)
    (h : source.read limit = (.ok [], rest)) : source = [] ∧ rest = [] := by
  match source with
  | [] => simpa [read, eq_comm] using h
  | .failure _ :: _ => simp [read] at h
  | .bytes head tail :: others =>
      simp only [read] at h
      split at h
      · simp at h
      · simp only [Prod.mk.injEq, Except.ok.injEq, List.take_eq_nil_iff, reduceCtorEq,
          or_false] at h
        omega

theorem read_error {limit : Nat} {source rest : Source} {message : String}
    (h : source.read limit = (.error message, rest)) : source = .failure message :: rest := by
  match source with
  | [] => simp [read] at h
  | .failure _ :: _ => simpa [read] using h
  | .bytes head tail :: others =>
      simp only [read] at h
      split at h <;> simp at h

theorem NeverFails.read {source : Source} (h : source.NeverFails) (limit : Nat) :
    ∃ got rest, source.read limit = (.ok got, rest) ∧ rest.NeverFails := by
  match source with
  | [] => exact ⟨[], [], rfl, h⟩
  | .failure message :: rest => exact absurd (List.mem_cons_self ..) (h message)
  | .bytes head tail :: rest =>
      have hlater : NeverFails rest := fun message hfailure =>
        h message (List.mem_cons_of_mem _ hfailure)
      simp only [Source.read]
      split
      · exact ⟨_, _, rfl, hlater⟩
      · refine ⟨_, _, rfl, fun message hfailure => ?_⟩
        exact hlater message (List.mem_of_ne_of_mem (by simp) hfailure)

/-- A source that hands out the bytes in pieces of at most `limit` bytes, and then what follows
them.  When it may hand out none at all, it is at its end where they begin. -/
def ofBytes (limit : Nat) (bytes : List UInt8) (following : Source) : Source :=
  match bytes with
  | [] => following
  | head :: tail =>
      if limit = 0 then []
      else .bytes head (tail.take (limit - 1)) :: ofBytes limit (tail.drop (limit - 1)) following
termination_by bytes.length
decreasing_by simp only [List.length_drop, List.length_cons]; omega

/-- Cutting bytes into pieces loses none. -/
theorem bytes_ofBytes {limit : Nat} (hlimit : 0 < limit) (bytes : List UInt8)
    (following : Source) : (ofBytes limit bytes following).bytes = bytes ++ following.bytes := by
  fun_induction ofBytes limit bytes following with
  | case1 => rfl
  | case2 => omega
  | case3 head tail _ ih =>
      rw [Source.bytes, ih, ← List.append_assoc, List.cons_append, List.take_append_drop]

theorem neverFails_ofBytes (limit : Nat) (bytes : List UInt8) {following : Source}
    (h : following.NeverFails) : (ofBytes limit bytes following).NeverFails := by
  fun_induction ofBytes limit bytes following with
  | case1 => exact h
  | case2 => simp [NeverFails]
  | case3 head tail _ ih =>
      intro message hfailure
      exact ih message (List.mem_of_ne_of_mem (by simp) hfailure)

end Source

end BankStatement
