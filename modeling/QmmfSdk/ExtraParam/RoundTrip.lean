import QmmfSdk.ExtraParam.Walk

/-! A container built by updates and the one acquired from its raw buffer. -/
namespace QmmfSdk

namespace ExtraParam

open Library Block

variable {ty : TagTypes} {c d : ExtraParam} {bs cs : List (Block ty)} {tag entry : UInt32}
  {p : Payload ty}

/-- Tag and entry number of every block, all that numbering is about. -/
def ids (bs : List (Block ty)) : List (UInt32 × UInt32) := bs.map fun b => (b.data.tagId, b.entryId)

theorem count_eq_of_ids (h : ids cs = ids bs) : count tag cs = count tag bs := by
  have hcount : ∀ bs : List (Block ty), count tag bs = ((ids bs).filter fun x => x.1 = tag).length := by
    intro bs
    rw [ids, List.filter_map, List.length_map]
    rfl
  rw [hcount, hcount, h]

theorem numbered_of_ids (hn : Numbered bs) (h : ids cs = ids bs) : Numbered cs := by
  rintro pre b post rfl
  have hsplit : ids bs = ids pre ++ (b.data.tagId, b.entryId) :: ids post := by
    rw [← h]
    simp [ids]
  obtain ⟨pre', rest, rfl, hpre, hrest⟩ := List.map_eq_append_iff.mp hsplit
  obtain ⟨b', post', rfl, hb, -⟩ := List.map_eq_cons_iff.mp hrest
  obtain ⟨htag, hid⟩ := Prod.mk.inj hb
  rw [← hid, hn pre' b' post' rfl, htag]
  exact count_eq_of_ids hpre

theorem numbered_nil : Numbered ([] : List (Block ty)) := by
  intro pre b post h
  simp at h

/-- Updates number the blocks of a tag in the order in which they are added. -/
theorem numbered_put (hn : Numbered bs) (h : Put tag entry p bs cs) : Numbered cs := by
  cases h with
  | refused => exact hn
  | overwritten hp hbs hb he =>
    apply numbered_of_ids hn
    simp [ids, hbs, hp, hb]
  | added hp he =>
    intro pre b post hsplit
    rcases List.eq_nil_or_concat post with rfl | ⟨post, x, rfl⟩
    · obtain ⟨rfl, hb⟩ := List.append_inj' hsplit rfl
      obtain rfl : _ = b := by simpa using hb
      change entry.toNat = count p.tagId bs
      rw [hp, ← he]
      rfl
    · have hsplit : bs ++ [⟨entry, p⟩] = (pre ++ b :: post) ++ [x] := by simpa using hsplit
      exact hn pre b post (List.append_inj' hsplit rfl).1

/-- A container that only updates have touched. -/
def Built (ty : TagTypes) (c : ExtraParam) : Prop :=
  ∃ bs : List (Block ty), Lays c bs ∧ Numbered bs

theorem built_update (h : Built ty c) (tag : UInt32) (p : Payload ty) (entry : UInt32) :
    ∃ d, next c (.update tag p entry) = some d ∧ Built ty d := by
  obtain ⟨bs, hlays, hn⟩ := h
  obtain ⟨ret, d, cs, hcall, hd, hput⟩ := lays_update hlays tag p entry
  exact ⟨d, by simp [next, call, hcall], cs, hd, numbered_put hn hput⟩

/-- Any finite sequence of updates, accepted or refused, returns. -/
theorem built_run (us : List (UInt32 × Payload ty × UInt32)) (h : Built ty c) :
    ∃ d, LTS.run next c (us.map fun u => Op.update u.1 u.2.1 u.2.2) = some d ∧ Built ty d := by
  induction us generalizing c with
  | nil => exact ⟨c, rfl, h⟩
  | cons u us ih =>
    obtain ⟨d, hd, hb⟩ := built_update h u.1 u.2.1 u.2.2
    obtain ⟨e, he, hb⟩ := ih hb
    exact ⟨e, by simp [LTS.run, hd, he], hb⟩

/-- Acquiring the raw buffer rebuilds the very same container. -/
theorem acquire_of_built (h : Built ty c) : acquire {} c.dataBuffer = .ok (0, c) := by
  obtain ⟨bs, hlays, hn⟩ := h
  obtain ⟨d, hd, hlays'⟩ := lays_acquire hn
  rw [hlays.buffer, hd, hlays'.eq hlays]

/-- Whatever updates a container has seen, the one acquired from its buffer answers every query
as it does. -/
theorem acquire_round_trip (ty : TagTypes) (us : List (UInt32 × Payload ty × UInt32)) :
    ∃ c d, LTS.run next {} (us.map fun u => Op.update u.1 u.2.1 u.2.2) = some c ∧
      acquire {} c.dataBuffer = .ok (0, d) ∧
      (∀ tag, d.existsTag tag = c.existsTag tag) ∧ d.tagCount = c.tagCount ∧
      (∀ tag, d.entryCount tag = c.entryCount tag) ∧
      ∀ tag dest entry, d.fetch ty tag dest entry = c.fetch ty tag dest entry := by
  obtain ⟨c, hrun, hb⟩ := built_run us ⟨[], lays_empty, numbered_nil⟩
  exact ⟨c, c, hrun, acquire_of_built hb, fun _ => rfl, rfl, fun _ => rfl, fun _ _ _ => rfl⟩

end ExtraParam

end QmmfSdk
