import UnitOfWork.Proofs.Context.Chronicle
import UnitOfWork.Proofs.Timeline.Later

namespace UnitOfWork

theorem Timeline.lineage_apart (tl : Timeline) (k : Nat) :
    tl.apart.2.lineage k =
      if k = tl.lineages.length then [tl.lineages.length] else tl.lineage k := by
  simp only [lineage, apart]
  by_cases hk : k = tl.lineages.length
  · simp [hk]
  · rw [if_neg hk]
    by_cases hl : k < tl.lineages.length
    · rw [List.getElem?_append_left hl]
    · rw [List.getElem?_eq_none (by simp; omega), List.getElem?_eq_none (by omega)]

namespace Chronicle

structure Fits (owners : List Nat) (tl : Timeline) (x : Context) (line : Line) : Prop where
  known : x.token < owners.length
  token : owners[x.token]? = line.owners.head?
  lineage : (tl.lineage x.token).map (owners[·]?) = line.owners.map some
  deadline : x.deadline = line.instants.min?
  session : x.session = line.session?

structure Tokens (owners : List Nat) (tl : Timeline) (contexts : List Context) (h : Chronicle) :
    Prop where
  nodup : owners.Nodup
  count : owners.length = tl.lineages.length
  older : ∀ n ∈ owners, n < contexts.length
  lines : h.lines.length = contexts.length
  fits : ∀ (c : Nat) (x : Context) (line : Line), contexts[c]? = some x →
    h.lines[c]? = some line → Fits owners tl x line

theorem Fits.later {owners owners' : List Nat} {tl tl' : Timeline} {x : Context} {line : Line}
    (h : Fits owners tl x line) (howners : owners <+: owners')
    (htl : tl'.lineage x.token = tl.lineage x.token) : Fits owners' tl' x line := by
  have hold {k : Nat} (hk : k < owners.length) : owners'[k]? = owners[k]? := by
    obtain ⟨more, rfl⟩ := howners
    exact List.getElem?_append_left hk
  refine ⟨Nat.lt_of_lt_of_le h.known howners.length_le, ?_, ?_, h.deadline, h.session⟩
  · rw [hold h.known, h.token]
  · rw [htl, ← h.lineage]
    apply List.map_congr_left
    intro k hk
    have hsome : owners[k]? ∈ line.owners.map some := h.lineage ▸ List.mem_map_of_mem hk
    obtain ⟨n, -, hn⟩ := List.mem_map.mp hsome
    exact hold (List.getElem?_eq_some_iff.mp hn.symm).1

namespace Tokens

variable {owners : List Nat} {tl tl' : Timeline} {contexts : List Context} {h : Chronicle}
  {c : Nat} {x : Context} {line : Line}

theorem add {owners' : List Nat} (ht : Tokens owners tl contexts h) (howners : owners <+: owners')
    (htl : ∀ k < tl.lineages.length, tl'.lineage k = tl.lineage k) (hnodup : owners'.Nodup)
    (hcount : owners'.length = tl'.lineages.length)
    (holder : ∀ n ∈ owners', n ≤ contexts.length) {m : Making}
    (hfits : Fits owners' tl' x (⟨contexts.length, m⟩ :: line)) :
    Tokens owners' tl' (contexts ++ [x]) (h.add line m) := by
  refine ⟨hnodup, hcount, ?_, ?_, ?_⟩
  · intro n hn
    simpa using Nat.lt_succ_of_le (holder n hn)
  · simp [Chronicle.add, ht.lines]
  · intro c y line' hy hline'
    obtain hy | ⟨rfl, rfl⟩ := getElem?_snoc_iff.mp hy <;>
      obtain hline' | ⟨hc, rfl⟩ := getElem?_snoc_iff.mp hline'
    · have hold := ht.fits c y line' hy hline'
      exact hold.later howners (htl y.token (ht.count ▸ hold.known))
    · have hlt := (List.getElem?_eq_some_iff.mp hy).1
      rw [hc, ht.lines] at hlt
      exact absurd hlt (Nat.lt_irrefl _)
    · have hlt := (List.getElem?_eq_some_iff.mp hline').1
      rw [ht.lines] at hlt
      exact absurd hlt (Nat.lt_irrefl _)
    · rw [ht.lines]
      exact hfits

theorem nodup_snoc (ht : Tokens owners tl contexts h) : (owners ++ [contexts.length]).Nodup := by
  refine List.nodup_append.mpr ⟨ht.nodup, by simp, ?_⟩
  intro n hn m hm
  rw [List.mem_singleton.mp hm]
  exact Nat.ne_of_lt (ht.older n hn)

theorem le_of_mem_snoc (ht : Tokens owners tl contexts h) :
    ∀ n ∈ owners ++ [contexts.length], n ≤ contexts.length := by
  intro n hn
  obtain hn | hn := List.mem_append.mp hn
  · exact Nat.le_of_lt (ht.older n hn)
  · exact Nat.le_of_eq (List.mem_singleton.mp hn)

theorem background (ht : Tokens owners tl contexts h) :
    Tokens (owners ++ [contexts.length]) tl.apart.2
      (contexts ++ [{ Context.background with token := tl.apart.1 }]) (h.add [] .background) := by
  refine ht.add (List.prefix_append _ _) ?_ ht.nodup_snoc ?_ ht.le_of_mem_snoc ?_
  · intro k hk
    rw [Timeline.lineage_apart, if_neg (Nat.ne_of_lt hk)]
  · simp [Timeline.apart, ht.count]
  · have hnew : (owners ++ [contexts.length])[tl.lineages.length]? = some contexts.length :=
      getElem?_snoc_iff.mpr (.inr ⟨ht.count.symm, rfl⟩)
    refine ⟨?_, hnew, ?_, rfl, rfl⟩
    · simp [Timeline.apart, ht.count]
    · change (tl.apart.2.lineage tl.lineages.length).map _ = _
      rw [Timeline.lineage_apart, if_pos rfl, List.map_cons, hnew]
      rfl

theorem fork (ht : Tokens owners tl contexts h) (hx : contexts[c]? = some x)
    (hline : h.lines[c]? = some line) {deadline i : Option Nat}
    (hdeadline : deadline = (Line.instants (⟨contexts.length, .fork i⟩ :: line)).min?) :
    Tokens (owners ++ [contexts.length]) (x.below tl deadline).2
      (contexts ++ [(x.below tl deadline).1]) (h.add line (.fork i)) := by
  have hfits := ht.fits c x line hx hline
  refine ht.add (List.prefix_append _ _) ?_ ht.nodup_snoc ?_ ht.le_of_mem_snoc ?_
  · intro k hk
    rw [Context.below, Timeline.lineage_child, if_neg (Nat.ne_of_lt hk)]
  · simp [Context.below, Timeline.child, ht.count]
  · have hnew : (owners ++ [contexts.length])[tl.lineages.length]? = some contexts.length :=
      getElem?_snoc_iff.mpr (.inr ⟨ht.count.symm, rfl⟩)
    have hbelow : (x.below tl deadline).2.lineage x.token = tl.lineage x.token := by
      rw [Context.below, Timeline.lineage_child, if_neg (Nat.ne_of_lt (ht.count ▸ hfits.known))]
    refine ⟨?_, hnew, ?_, hdeadline, hfits.session⟩
    · simp [Context.below, Timeline.child, ht.count]
    · have hlineage := (hfits.later (List.prefix_append owners [contexts.length]) hbelow).lineage
      rw [hbelow] at hlineage
      change ((tl.child x.token).2.lineage tl.lineages.length).map _ = _
      rw [Timeline.lineage_child, if_pos rfl, List.map_cons, hnew, hlineage]
      rfl

theorem share (ht : Tokens owners tl contexts h) (hx : contexts[c]? = some x)
    (hline : h.lines[c]? = some line) {m : Making} (hm : m.ownsToken = false)
    {session : Option Nat} (hinstant : m.instant? = none)
    (hsession : session = Line.session? (⟨contexts.length, m⟩ :: line)) :
    Tokens owners tl (contexts ++ [{ x with session := session }]) (h.add line m) := by
  have hfits := ht.fits c x line hx hline
  have howners : Line.owners (⟨contexts.length, m⟩ :: line) = line.owners := by
    simp [Line.owners, hm]
  refine ht.add List.prefix_rfl (fun k hk => rfl) ht.nodup ht.count
    (fun n hn => Nat.le_of_lt (ht.older n hn)) ?_
  refine ⟨hfits.known, ?_, ?_, ?_, hsession⟩
  · rw [howners]
    exact hfits.token
  · rw [howners]
    exact hfits.lineage
  · simp only [Line.instants, List.filterMap_cons, hinstant]
    exact hfits.deadline

theorem of_lineages (ht : Tokens owners tl contexts h) (htl : tl'.lineages = tl.lineages)
    {h' : Chronicle} (hlines : h'.lines = h.lines) : Tokens owners tl' contexts h' := by
  refine ⟨ht.nodup, htl ▸ ht.count, ht.older, hlines ▸ ht.lines, ?_⟩
  intro c x line hx hline
  rw [hlines] at hline
  refine (ht.fits c x line hx hline).later List.prefix_rfl ?_
  simp only [Timeline.lineage, htl]

theorem derive (ht : Tokens owners tl contexts h) (hx : contexts[c]? = some x)
    (hline : h.lines[c]? = some line) (d : Derivation) :
    ∃ owners', Tokens owners' (x.derive tl d).2 (contexts ++ [(x.derive tl d).1])
      (h.add line (.ofDerivation tl.now d)) := by
  have hdeadline := (ht.fits c x line hx hline).deadline
  have hearlier (instant : Nat) : some (Context.earlier x.deadline instant) =
      (Line.instants (⟨contexts.length, .fork (some instant)⟩ :: line)).min? := by
    simp only [Line.instants, List.filterMap_cons, Making.instant?, List.min?_cons]
    change _ = some (line.instants.min?.elim instant (min instant))
    rw [← hdeadline]
    cases x.deadline with
    | none => rfl
    | some e => exact congrArg some (Nat.min_comm e instant)
  cases d with
  | cancellation => exact ⟨_, ht.fork hx hline (i := none) hdeadline⟩
  | timeout ms => exact ⟨_, ht.fork hx hline (hearlier (tl.now + ms))⟩
  | deadline instant => exact ⟨_, ht.fork hx hline (hearlier instant)⟩
  | copy =>
    exact ⟨_, ht.share hx hline (m := .copy) rfl rfl (ht.fits c x line hx hline).session⟩

variable {a : Nat} {y : Context}

theorem exists_line (ht : Tokens owners tl contexts h) (hx : contexts[c]? = some x) :
    ∃ line, h.lines[c]? = some line ∧ Fits owners tl x line := by
  have hc : c < h.lines.length := ht.lines ▸ (List.getElem?_eq_some_iff.mp hx).1
  have hline := List.getElem?_eq_getElem hc
  exact ⟨_, hline, ht.fits c x _ hx hline⟩

theorem owner?_eq (ht : Tokens owners tl contexts h) (hx : contexts[c]? = some x) :
    h.owner? c = owners[x.token]? := by
  obtain ⟨line, hline, hfits⟩ := ht.exists_line hx
  rw [hfits.token, owner?, hline]
  rfl

theorem known (ht : Tokens owners tl contexts h) (hx : contexts[c]? = some x) :
    x.token < owners.length := by
  obtain ⟨line, -, hfits⟩ := ht.exists_line hx
  exact hfits.known

theorem token_eq_iff (ht : Tokens owners tl contexts h) (hy : contexts[a]? = some y)
    (hx : contexts[c]? = some x) : y.token = x.token ↔ h.owner? a = h.owner? c := by
  rw [ht.owner?_eq hy, ht.owner?_eq hx]
  exact (List.getElem?_inj (ht.known hy) ht.nodup).symm

theorem governs_iff (ht : Tokens owners tl contexts h) (hl : h.Linked) (hy : contexts[a]? = some y)
    (hx : contexts[c]? = some x) : h.Governs a c ↔ y.token ∈ tl.lineage x.token := by
  obtain ⟨line, hline, hfits⟩ := ht.exists_line hx
  have hlineage := hfits.lineage
  rw [hl.governs_iff hline, ht.owner?_eq hy]
  constructor
  · rintro ⟨n, hn, howner⟩
    have hmem := List.mem_map_of_mem (f := some) hn
    rw [← hlineage] at hmem
    obtain ⟨k, hk, hkn⟩ := List.mem_map.mp hmem
    rwa [(List.getElem?_inj (ht.known hy) ht.nodup).mp (howner.trans hkn.symm)]
  · intro hmem
    have hmap : owners[y.token]? ∈ (tl.lineage x.token).map (owners[·]?) := List.mem_map_of_mem hmem
    rw [hlineage] at hmap
    obtain ⟨n, hn, howner⟩ := List.mem_map.mp hmap
    exact ⟨n, hn, howner.symm⟩

end Tokens

end Chronicle

end UnitOfWork
