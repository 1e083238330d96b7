import Mathlib
import Parley.Stage

/-!
# Trimming the request history

Before a request joins a full history, the stage drops the oldest closed request, again and
again, until the history has room or no request is closed. Main statement
(`push_drops_oldest_closed`): adding a request drops the first `dropCount` closed requests, as
many as it takes to leave room or all there are if fewer, keeps every other request in its
order and puts the new one last. The history then holds at most `maxRequests` entries, or no
entry but the new one is closed.

## Implementation notes

The loop is bounded by the length of the history. It never needs that many rounds: each round
drops one request, and the history has room after `length + 1 - maxRequests` of them.
`trim_eq_dropFirst` counts the rounds exactly, so the bound is seen to cut nothing short.
-/

namespace Parley

section Lists

variable {α : Type} (p : α → Bool)

/-- The list without its first `k` entries that satisfy `p`; the others keep their order. -/
def dropFirst : Nat → List α → List α
  | 0, xs => xs
  | _ + 1, [] => []
  | k + 1, x :: xs => if p x then dropFirst k xs else x :: dropFirst (k + 1) xs

@[simp] theorem dropFirst_zero (xs : List α) : dropFirst p 0 xs = xs := by
  cases xs <;> rfl

@[simp] theorem dropFirst_nil (k : Nat) : dropFirst p k [] = [] := by
  cases k <;> rfl

theorem dropFirst_succ_cons (k : Nat) (x : α) (xs : List α) :
    dropFirst p (k + 1) (x :: xs) =
      if p x then dropFirst p k xs else x :: dropFirst p (k + 1) xs := rfl

theorem dropFirst_sublist (k : Nat) (xs : List α) : (dropFirst p k xs).Sublist xs := by
  induction xs generalizing k with
  | nil => simp
  | cons x xs ih =>
      cases k with
      | zero => simp
      | succ k =>
          rw [dropFirst_succ_cons]
          split
          · exact (ih k).cons x
          · exact (ih (k + 1)).cons_cons x

/-- Only entries that satisfy `p` are dropped. -/
theorem filter_not_dropFirst (k : Nat) (xs : List α) :
    (dropFirst p k xs).filter (fun x => !p x) = xs.filter (fun x => !p x) := by
  induction xs generalizing k with
  | nil => simp
  | cons x xs ih =>
      cases k with
      | zero => simp
      | succ k =>
          rw [dropFirst_succ_cons]
          by_cases hx : p x <;> simp [hx, ih]

/-- The entries that satisfy `p` and are dropped are the first `k` of them. -/
theorem filter_dropFirst (k : Nat) (xs : List α) :
    (dropFirst p k xs).filter p = (xs.filter p).drop k := by
  induction xs generalizing k with
  | nil => simp
  | cons x xs ih =>
      cases k with
      | zero => simp
      | succ k =>
          rw [dropFirst_succ_cons]
          by_cases hx : p x <;> simp [hx, ih]

theorem countP_dropFirst (k : Nat) (xs : List α) :
    (dropFirst p k xs).countP p = xs.countP p - k := by
  rw [List.countP_eq_length_filter, filter_dropFirst, List.length_drop,
    List.countP_eq_length_filter]

theorem length_dropFirst (k : Nat) (xs : List α) :
    (dropFirst p k xs).length = xs.length - min k (xs.countP p) := by
  -- the entries that do not satisfy `p` all stay; of the others, `k` go
  have hkept := List.length_eq_length_filter_add p (l := dropFirst p k xs)
  have hall := List.length_eq_length_filter_add p (l := xs)
  rw [filter_not_dropFirst, filter_dropFirst, List.length_drop] at hkept
  rw [List.countP_eq_length_filter]
  omega

/-- Dropping `k` and then `j` more is dropping `k + j`. -/
theorem dropFirst_dropFirst (j k : Nat) (xs : List α) :
    dropFirst p j (dropFirst p k xs) = dropFirst p (k + j) xs := by
  induction xs generalizing k j with
  | nil => simp
  | cons x xs ih =>
      cases k with
      | zero => simp
      | succ k =>
          by_cases hx : p x
          · rw [dropFirst_succ_cons, if_pos hx, ih, Nat.add_right_comm, dropFirst_succ_cons,
              if_pos hx]
          · rw [dropFirst_succ_cons, if_neg hx]
            cases j with
            | zero => simp [dropFirst_succ_cons, hx]
            | succ j =>
                rw [dropFirst_succ_cons, if_neg hx, ih, ← Nat.add_assoc, dropFirst_succ_cons,
                  if_neg hx]

/-- Once the count covers every entry that satisfies `p`, none is left. -/
theorem dropFirst_of_countP_le {k : Nat} {xs : List α} (h : xs.countP p ≤ k) :
    ∀ x ∈ dropFirst p k xs, p x = false := by
  have hnone : (dropFirst p k xs).countP p = 0 := by
    rw [countP_dropFirst]
    omega
  intro x hx
  simpa using List.countP_eq_zero.mp hnone x hx

/-- Erasing the first entry that satisfies `p` is dropping one. -/
theorem eraseIdx_findIdx? {xs : List α} {i : Nat} (h : xs.findIdx? p = some i) :
    xs.eraseIdx i = dropFirst p 1 xs := by
  induction xs generalizing i with
  | nil => cases h
  | cons x xs ih =>
      rw [List.findIdx?_cons] at h
      rw [dropFirst_succ_cons]
      by_cases hx : p x
      · rw [if_pos hx] at h
        cases h
        simp [hx]
      · rw [if_neg hx] at h
        obtain ⟨j, hj, rfl⟩ := Option.map_eq_some_iff.mp h
        simp [hx, ih hj]

end Lists

namespace Stage

/-- Whether a request is closed depends on the open dialogs only, not on the history. -/
@[simp] theorem isClosed_with_requests (s : Stage) (rs : List Request) :
    { s with requests := rs }.isClosed = s.isClosed := rfl

/-- How many closed requests `push` drops: as many as it takes to leave room for one more, or all
of them if there are fewer. -/
def dropCount (s : Stage) : Nat :=
  min (s.requests.countP s.isClosed) (s.requests.length + 1 - maxRequests)

/-- The requests `push` keeps: the history without its first `dropCount` closed requests. -/
def keptRequests (s : Stage) : List Request := dropFirst s.isClosed s.dropCount s.requests

/-- Each round of the trim drops the oldest closed request, so `fuel` rounds drop as many as the
rounds, the closed requests and the excess over the bound allow. -/
theorem trim_eq_dropFirst (s : Stage) (fuel : Nat) :
    s.trim fuel =
      { s with
        requests := dropFirst s.isClosed
          (min fuel (min (s.requests.countP s.isClosed) (s.requests.length + 1 - maxRequests)))
          s.requests } := by
  have hmax : maxRequests = 256 := rfl
  induction fuel generalizing s with
  | zero => simp [trim]
  | succ fuel ih =>
      unfold trim
      split
      · -- there is room already: no round drops anything
        have hroom : s.requests.length + 1 - maxRequests = 0 := by omega
        simp [hroom]
      · rename_i hfull
        split
        · rename_i i hi
          have hc : s.requests.countP s.isClosed ≠ 0 := by
            intro h0
            rw [List.findIdx?_eq_none_iff.mpr fun x hx => by
              simpa using List.countP_eq_zero.mp h0 x hx] at hi
            cases hi
          rw [ih, isClosed_with_requests, eraseIdx_findIdx? _ hi, dropFirst_dropFirst,
            length_dropFirst, countP_dropFirst]
          -- one round dropped one closed request of a full history
          have hcount : 1 + min fuel (min (s.requests.countP s.isClosed - 1)
              (s.requests.length - min 1 (s.requests.countP s.isClosed) + 1 - maxRequests)) =
              min (fuel + 1) (min (s.requests.countP s.isClosed)
                (s.requests.length + 1 - maxRequests)) := by
            omega
          rw [hcount]
        · rename_i hnone
          -- no request is closed: nothing can be dropped
          have hc : s.requests.countP s.isClosed = 0 :=
            List.countP_eq_zero.mpr fun x hx => by
              simpa using List.findIdx?_eq_none_iff.mp hnone x hx
          simp [hc]

/-- Adding a request: the kept requests, then the new one; nothing else changes. -/
theorem push_eq (s : Stage) (r : Request) :
    s.push r = { s with requests := s.keptRequests ++ [r] } := by
  have hmax : maxRequests = 256 := rfl
  -- the rounds the trim is given are never fewer than the ones it needs
  have hrounds : min s.requests.length
      (min (s.requests.countP s.isClosed) (s.requests.length + 1 - maxRequests)) =
      s.dropCount := by
    unfold dropCount
    omega
  simp only [push, trim_eq_dropFirst, hrounds, keptRequests]

/-- After `push`, the history has room, or every request kept is open or pending. -/
theorem push_room_or_none_closed (s : Stage) (r : Request) :
    (s.push r).requests.length ≤ maxRequests ∨ ∀ x ∈ s.keptRequests, s.isClosed x = false := by
  rw [push_eq]
  by_cases hall : s.requests.countP s.isClosed ≤ s.requests.length + 1 - maxRequests
  · -- every closed request goes
    right
    exact dropFirst_of_countP_le _ (min_eq_left hall).ge
  · -- the excess goes, which leaves room
    left
    have hcount : s.dropCount = s.requests.length + 1 - maxRequests := min_eq_right (by omega)
    have hlen := length_dropFirst s.isClosed s.dropCount s.requests
    rw [hcount] at hlen
    have hle : s.requests.countP s.isClosed ≤ s.requests.length := List.countP_le_length
    rw [List.length_append, List.length_singleton, keptRequests, hcount, hlen]
    omega

/-- Adding a request drops the oldest closed requests, as many as it takes to leave room or all
there are if fewer, keeps every other request in its order, and puts the new one last; the
history then has room, or no request but the new one is closed. -/
theorem push_drops_oldest_closed (s : Stage) (r : Request) :
    s.push r = { s with requests := s.keptRequests ++ [r] } ∧
      s.keptRequests.Sublist s.requests ∧
      s.keptRequests.filter (fun x => !s.isClosed x) =
        s.requests.filter (fun x => !s.isClosed x) ∧
      s.keptRequests.filter s.isClosed = (s.requests.filter s.isClosed).drop s.dropCount ∧
      ((s.push r).requests.length ≤ maxRequests ∨
        ∀ x ∈ s.keptRequests, s.isClosed x = false) :=
  ⟨push_eq s r, dropFirst_sublist _ _ _, filter_not_dropFirst _ _ _,
    filter_dropFirst _ _ _, push_room_or_none_closed s r⟩

end Stage

end Parley
