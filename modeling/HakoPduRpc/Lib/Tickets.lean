import Mathlib.Algebra.Group.Nat.Defs
import Mathlib.Data.List.Basic
import Mathlib.Data.List.Nodup
import Mathlib.Data.List.Range
import Mathlib.Data.List.Perm.Subperm

/-!
# Numbers handed out by a 64-bit counter

A counter starts at one and is increased each time it hands out a number.  Some
of the numbers are live, some have been retired.  `Ledger` is what one knows of
them at any time: the numbers handed out are the successive values of the
counter, and each of them is live or retired at most as often as it was handed
out.  As long as the counter has not gone round once, this is at most once.
-/

namespace HakoPduRpc
namespace Tickets

/-- The number handed out after `n` others. -/
def ticket (n : ℕ) : UInt64 := UInt64.ofNat (n + 1)

/-- The first `n` numbers. -/
def tickets (n : ℕ) : List UInt64 := (List.range n).map ticket

theorem ticket_succ (n : ℕ) : ticket (n + 1) = ticket n + 1 := by
  rw [ticket, ticket, UInt64.ofNat_add (n + 1) 1]
  rfl

theorem tickets_succ (n : ℕ) : tickets (n + 1) = tickets n ++ [ticket n] := by
  rw [tickets, List.range_succ, List.map_append]
  rfl

theorem one_eq_ticket : 1 = ticket 0 := rfl

theorem succ_eq_ticket {next : UInt64} {n : ℕ} (h : next = ticket n) :
    next + 1 = ticket (n + 1) := by
  rw [ticket_succ, h]

theorem add_eq_ticket {next : UInt64} {i : ℕ} (h : next = ticket i) (n : ℕ) :
    next + UInt64.ofNat n = ticket (i + n) := by
  rw [h, ticket, ticket, ← UInt64.ofNat_add, Nat.add_right_comm]

/-- The counter goes round after `2 ^ 64` numbers. -/
theorem ticket_inj {n i j : ℕ} (hn : n ≤ 2 ^ 64) (hi : i < n) (hj : j < n)
    (h : ticket i = ticket j) : i = j := by
  have hmod := congrArg UInt64.toNat h
  simp only [ticket, UInt64.toNat_ofNat'] at hmod
  omega

theorem nodup_tickets {n : ℕ} (hn : n ≤ 2 ^ 64) : (tickets n).Nodup := by
  refine List.Nodup.map_on ?_ List.nodup_range
  intro i hi j hj heq
  rw [List.mem_range] at hi hj
  exact ticket_inj hn hi hj heq

/-- Where no number is handed out twice, it names what it was handed out
with. -/
theorem eq_of_nodup_filterMap {α κ : Type*} {f : α → Option κ} {l : List α}
    (hl : (l.filterMap f).Nodup) {a b : α} {k : κ} (ha : a ∈ l) (hb : b ∈ l)
    (hak : f a = some k) (hbk : f b = some k) : a = b := by
  induction l with
  | nil => simp at ha
  | cons c l ih =>
      have hrest : (l.filterMap f).Nodup :=
        ((List.sublist_cons_self c l).filterMap f).nodup hl
      have hhead : ∀ d ∈ l, f c = some k → f d ≠ some k := by
        intro d hd hck hdk
        rw [List.filterMap_cons_some hck, List.nodup_cons] at hl
        exact hl.1 (List.mem_filterMap.mpr ⟨d, hd, hdk⟩)
      rcases List.mem_cons.mp ha with rfl | ha'
      · rcases List.mem_cons.mp hb with rfl | hb'
        · rfl
        · exact absurd hbk (hhead b hb' hak)
      · rcases List.mem_cons.mp hb with rfl | hb'
        · exact absurd hak (hhead a ha' hbk)
        · exact ih hrest ha' hb'

/-- What is known of the numbers handed out. -/
structure Ledger (next : UInt64) (live issued retired : List UInt64) :
    Prop where
  issued_eq : issued = tickets issued.length
  next_eq : next = ticket issued.length
  subperm : (live ++ retired).Subperm issued

namespace Ledger

variable {next : UInt64} {live live' issued retired gone : List UInt64}

theorem empty : Ledger 1 [] [] [] := ⟨rfl, rfl, List.Subperm.refl _⟩

/-- A number is handed out. -/
theorem issue (h : Ledger next live issued retired) :
    Ledger (next + 1) live (issued ++ [next]) retired where
  issued_eq := by
    rw [List.length_append, List.length_singleton, tickets_succ,
      ← h.issued_eq, ← h.next_eq]
  next_eq := by
    rw [List.length_append, List.length_singleton, ticket_succ, ← h.next_eq]
  subperm := h.subperm.trans (List.sublist_append_left _ _).subperm

/-- A number is handed out and is live. -/
theorem issueLive (h : Ledger next live issued retired) :
    Ledger (next + 1) (live ++ [next]) (issued ++ [next]) retired where
  issued_eq := h.issue.issued_eq
  next_eq := h.issue.next_eq
  subperm := by
    have hperm : (live ++ [next] ++ retired).Perm (live ++ retired ++ [next]) := by
      rw [List.append_assoc, List.append_assoc]
      exact List.perm_append_comm.append_left live
    exact hperm.subperm.trans ((List.subperm_append_right [next]).mpr h.subperm)

/-- Some of the live numbers are retired, others are forgotten. -/
theorem retire (h : Ledger next live issued retired)
    (hgone : (live' ++ gone).Subperm live) :
    Ledger next live' issued (retired ++ gone) where
  issued_eq := h.issued_eq
  next_eq := h.next_eq
  subperm := by
    have hperm : (live' ++ (retired ++ gone)).Perm (live' ++ gone ++ retired) := by
      rw [List.append_assoc]
      exact List.perm_append_comm.append_left live'
    exact (hperm.subperm.trans
      ((List.subperm_append_right retired).mpr hgone)).trans h.subperm

theorem nodup (h : Ledger next live issued retired)
    (hlength : issued.length ≤ 2 ^ 64) : issued.Nodup := by
  rw [h.issued_eq]
  exact nodup_tickets hlength

/-- While numbers are not handed out twice, none is live and retired or
twice one of them. -/
theorem nodup_live (h : Ledger next live issued retired)
    (hissued : issued.Nodup) : (live ++ retired).Nodup := by
  obtain ⟨l, hperm, hsub⟩ := h.subperm
  exact hperm.nodup_iff.mp (hsub.nodup hissued)

theorem mem_issued (h : Ledger next live issued retired) {k : UInt64}
    (hk : k ∈ live) : k ∈ issued :=
  h.subperm.subset (List.mem_append_left _ hk)

end Ledger

end Tickets
end HakoPduRpc
