import UnitOfWork.Pool

namespace UnitOfWork.Pool

def Busy (p : Pool) (i : Nat) : Prop := i < p.size ∧ i ∉ p.idle

structure Orderly (p : Pool) : Prop where
  nodup : p.idle.Nodup
  known : ∀ i ∈ p.idle, i < p.size

theorem orderly_initial (limit : Nat) : (initial limit).Orderly := by
  constructor <;> simp [initial]

namespace Orderly

variable {p p' : Pool} {i j : Nat}

theorem take_waiting (h : p.Orderly) (ht : p.take = .waiting i p') :
    p'.Orderly ∧ ¬ p.Busy i ∧ p'.Busy i ∧ ∀ j, p.Busy j → p'.Busy j := by
  unfold take at ht
  split at ht
  · cases ht
  · split at ht
    · rename_i k rest hp
      cases ht
      obtain ⟨hnodup, hknown⟩ := h
      rw [hp] at hnodup hknown
      obtain ⟨hk, hrest⟩ := List.nodup_cons.mp hnodup
      refine ⟨⟨hrest, fun j hj => hknown j (List.mem_cons_of_mem _ hj)⟩, ?_, ?_, ?_⟩
      · intro ht
        exact ht.2 (by rw [hp]; exact List.mem_cons_self)
      · exact ⟨hknown i List.mem_cons_self, hk⟩
      · intro j hj
        exact ⟨hj.1, fun hm => hj.2 (by rw [hp]; exact List.mem_cons_of_mem _ hm)⟩
    · split at ht <;> cases ht

theorem take_fresh (h : p.Orderly) (ht : p.take = .fresh i p') :
    p'.Orderly ∧ ¬ p.Busy i ∧ p'.Busy i ∧ ∀ j, p.Busy j → p'.Busy j := by
  unfold take at ht
  split at ht
  · cases ht
  · split at ht
    · cases ht
    · rename_i hp
      split at ht
      · cases ht
      · cases ht
        refine ⟨⟨h.nodup, ?_⟩, ?_, ⟨Nat.lt_succ_self _, ?_⟩, ?_⟩
        · intro j hj
          exact Nat.lt_succ_of_lt (h.known j hj)
        · intro ht
          exact Nat.lt_irrefl _ ht.1
        · simp [hp]
        · intro j hj
          exact ⟨Nat.lt_succ_of_lt hj.1, hj.2⟩

theorem giveBack (h : p.Orderly) (ht : p.Busy i) :
    (p.giveBack i).Orderly ∧ ∀ j, j ≠ i → p.Busy j → (p.giveBack i).Busy j := by
  unfold Pool.giveBack
  split
  · exact ⟨h, fun _ _ hj => hj⟩
  · refine ⟨⟨?_, ?_⟩, ?_⟩
    · rw [List.nodup_append]
      refine ⟨h.nodup, by simp, ?_⟩
      intro k hk l hl
      rw [List.mem_singleton.mp hl]
      rintro rfl
      exact ht.2 hk
    · intro k hk
      obtain hk | hk := List.mem_append.mp hk
      · exact h.known k hk
      · rw [List.mem_singleton.mp hk]
        exact ht.1
    · intro j hji hj
      refine ⟨hj.1, fun hm => ?_⟩
      obtain hm | hm := List.mem_append.mp hm
      · exact hj.2 hm
      · exact hji (List.mem_singleton.mp hm)

end Orderly

end UnitOfWork.Pool
