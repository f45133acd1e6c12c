import BlobSource.Store.Files
import Mathlib.Data.List.Basic

/-! Walks that end somewhere, step by step. -/
namespace BlobSource.Store

/-- The walk along some steps ends at a place, through at most the given number of links. -/
inductive Leads (s : Store) (purpose : Purpose) : ℕ → Location → List Step → Place → Prop where
  | arrive {links k} : Leads s purpose links k [] (.present k)
  | stay {links k rest place} : s.isDirectory k = true → Leads s purpose links k rest place →
      Leads s purpose links k (.stay :: rest) place
  | finalSlash {links k rest place} : s.isDirectory k = true →
      Leads s purpose links k rest place → Leads s purpose links k (.finalSlash :: rest) place
  | up {links k rest place} : s.isDirectory k = true →
      Leads s purpose links k.dropLast rest place → Leads s purpose links k (.up :: rest) place
  | create {links k name} : s.isDirectory k = true → purpose = .writing →
      name.length ≤ maxName → s.get? (k ++ [name]) = none →
      Leads s purpose links k [.down name] (.vacant (k ++ [name]))
  | enter {links k name rest place node} : s.isDirectory k = true →
      ¬ (purpose = .writing ∧ rest = [.finalSlash]) → name.length ≤ maxName →
      s.get? (k ++ [name]) = some node → (∀ target, node ≠ .link target) →
      Leads s purpose links (k ++ [name]) rest place →
      Leads s purpose links k (.down name :: rest) place
  | follow {links k name rest place target} : s.isDirectory k = true →
      ¬ (purpose = .writing ∧ rest = [.finalSlash]) → name.length ≤ maxName →
      s.get? (k ++ [name]) = some (.link target) →
      Leads s purpose links (if target.isAbsolute then [] else k) (target.steps ++ rest) place →
      Leads s purpose (links + 1) k (.down name :: rest) place

variable {s : Store} {purpose : Purpose}

/-- How a walk goes on at a link. -/
private def beyond (s : Store) (purpose : Purpose) :
    ℕ → Location → List Step → Except FileError Place
  | 0 => fun _ _ => .error .tooManyLinks
  | links + 1 => s.walk purpose links

private theorem walk_eq (links : ℕ) (k : Location) (steps : List Step) :
    s.walk purpose links k steps = s.walkWith purpose (s.beyond purpose links) k steps := by
  cases links <;> rfl

private theorem walkWith_of_leads {links : ℕ} {k : Location} {steps : List Step} {place : Place}
    (h : Leads s purpose links k steps place) :
    s.walkWith purpose (s.beyond purpose links) k steps = .ok place := by
  induction h with
  | arrive => rfl
  | stay hd _ ih =>
    unfold walkWith
    simpa [hd] using ih
  | finalSlash hd _ ih =>
    unfold walkWith
    simpa [hd] using ih
  | up hd _ ih =>
    unfold walkWith
    simpa [hd] using ih
  | create hd hp hl hg =>
    unfold walkWith
    simp [hd, hp, hl, hg]
  | @enter links k name rest place node hd hf hl hg hn _ ih =>
    unfold walkWith
    cases node with
    | link target => exact absurd rfl (hn target)
    | directory => simpa [hd, hf, Nat.not_lt.2 hl, hg] using ih
    | file content => simpa [hd, hf, Nat.not_lt.2 hl, hg] using ih
    | hardLink home => simpa [hd, hf, Nat.not_lt.2 hl, hg] using ih
    | device device => simpa [hd, hf, Nat.not_lt.2 hl, hg] using ih
  | follow hd hf hl hg _ ih =>
    unfold walkWith
    rw [← walk_eq] at ih
    simpa [hd, hf, Nat.not_lt.2 hl, hg, beyond] using ih

private theorem leads_of_walkWith {links : ℕ}
    (hbeyond : ∀ k steps place, s.beyond purpose links k steps = .ok place →
      ∃ fewer, links = fewer + 1 ∧ Leads s purpose fewer k steps place)
    {k : Location} {steps : List Step} {place : Place}
    (h : s.walkWith purpose (s.beyond purpose links) k steps = .ok place) :
    Leads s purpose links k steps place := by
  induction steps generalizing k with
  | nil =>
    cases h
    exact .arrive
  | cons step rest ih =>
    unfold walkWith at h
    by_cases hd : s.isDirectory k = true
    · rw [hd] at h
      cases step with
      | stay => exact .stay hd (ih h)
      | finalSlash => exact .finalSlash hd (ih h)
      | up => exact .up hd (ih h)
      | down name =>
        dsimp only at h
        by_cases hf : purpose = .writing ∧ rest = [.finalSlash]
        · simp [hf] at h
        by_cases hl : maxName < name.length
        · simp [hf, hl] at h
        simp only [Bool.not_true, Bool.false_eq_true, if_false, hf, hl] at h
        cases hg : s.get? (k ++ [name]) with
        | none =>
          rw [hg] at h
          dsimp only at h
          by_cases hnew : purpose = .writing ∧ rest = []
          · rw [if_pos hnew] at h
            cases h
            obtain ⟨hp, rfl⟩ := hnew
            exact .create hd hp (Nat.not_lt.1 hl) hg
          · rw [if_neg hnew] at h
            cases h
        | some node =>
          rw [hg] at h
          have henter := fun hn hrest => Leads.enter hd hf (Nat.not_lt.1 hl) hg hn (ih hrest)
          cases node with
          | link target =>
            obtain ⟨fewer, rfl, hlead⟩ := hbeyond _ _ _ h
            exact .follow hd hf (Nat.not_lt.1 hl) hg hlead
          | directory => exact henter (by simp) h
          | file content => exact henter (by simp) h
          | hardLink home => exact henter (by simp) h
          | device device => exact henter (by simp) h
    · rw [if_pos (by simp [hd])] at h
      cases h

theorem walk_eq_ok_iff {links : ℕ} {k : Location} {steps : List Step} {place : Place} :
    s.walk purpose links k steps = .ok place ↔ Leads s purpose links k steps place := by
  constructor
  · intro h
    induction links generalizing k steps place with
    | zero =>
      rw [walk_eq] at h
      exact leads_of_walkWith (fun _ _ _ hb => by cases hb) h
    | succ links ih =>
      rw [walk_eq] at h
      exact leads_of_walkWith (fun _ _ _ hb => ⟨links, rfl, ih hb⟩) h
  · intro h
    rw [walk_eq]
    exact walkWith_of_leads h

theorem reach_eq_ok_iff {p : Path} {place : Place} :
    s.reach purpose p = .ok place ↔
      0 ∉ p.bytes ∧ p.bytes ≠ [] ∧ p.bytes.length < maxPath ∧
        Leads s purpose maxLinks (if p.isAbsolute then [] else s.here) p.steps place := by
  rw [← walk_eq_ok_iff]
  unfold reach
  by_cases hzero : 0 ∈ p.bytes
  · simp [hzero]
  by_cases hnil : p.bytes = []
  · simp [hnil]
  by_cases hlong : maxPath ≤ p.bytes.length
  · simp [hzero, hnil, hlong, Nat.not_lt.2 hlong]
  · simp [hzero, hnil, hlong, Nat.lt_of_not_le hlong]

/-- A reader is led where a writer is, if something lies there. -/
theorem Leads.reading {links : ℕ} {k l : Location} {steps : List Step}
    (h : Leads s purpose links k steps (.present l)) :
    Leads s .reading links k steps (.present l) := by
  have hr : ∀ rest : List Step, ¬ (Purpose.reading = .writing ∧ rest = [.finalSlash]) := by simp
  generalize hplace : Place.present l = place at h
  induction h with
  | arrive => exact .arrive
  | stay hd _ ih => exact .stay hd (ih hplace)
  | finalSlash hd _ ih => exact .finalSlash hd (ih hplace)
  | up hd _ ih => exact .up hd (ih hplace)
  | create => cases hplace
  | enter hd _ hl hg hn _ ih => exact .enter hd (hr _) hl hg hn (ih hplace)
  | follow hd _ hl hg _ ih => exact .follow hd (hr _) hl hg (ih hplace)

theorem reach_reading {p : Path} {l : Location} (h : s.reach purpose p = .ok (.present l)) :
    s.reach .reading p = .ok (.present l) := by
  obtain ⟨hzero, hnil, hlong, hlead⟩ := reach_eq_ok_iff.1 h
  exact reach_eq_ok_iff.2 ⟨hzero, hnil, hlong, hlead.reading⟩

theorem locate_eq_present_iff {p : Path} {l : Location} :
    s.locate purpose p = .ok (.present l) ↔
      ∃ k, s.reach purpose p = .ok (.present k) ∧ s.home k = l := by
  unfold locate
  rcases s.reach purpose p with e | ⟨k⟩ | k <;> simp

theorem locate_eq_vacant_iff {p : Path} {l : Location} :
    s.locate purpose p = .ok (.vacant l) ↔ s.reach purpose p = .ok (.vacant l) := by
  unfold locate
  rcases s.reach purpose p with e | ⟨k⟩ | k <;> simp

theorem locate_reading {p : Path} {l : Location} (h : s.locate purpose p = .ok (.present l)) :
    s.locate .reading p = .ok (.present l) := by
  obtain ⟨k, hk, hhome⟩ := locate_eq_present_iff.1 h
  exact locate_eq_present_iff.2 ⟨k, reach_reading hk, hhome⟩

theorem Leads.eq_present_of_not_isDirectory {links : ℕ} {k : Location} {steps : List Step}
    {place : Place} (h : Leads s purpose links k steps place) (hk : s.isDirectory k = false) :
    place = .present k := by
  cases h with
  | arrive => rfl
  | stay hd | finalSlash hd | up hd | create hd | enter hd | follow hd =>
    rw [hk] at hd
    cases hd

theorem Leads.get?_of_vacant {links : ℕ} {k l : Location} {steps : List Step}
    (h : Leads s purpose links k steps (.vacant l)) : s.get? l = none := by
  generalize hplace : Place.vacant l = place at h
  induction h with
  | arrive => cases hplace
  | stay _ _ ih => exact ih hplace
  | finalSlash _ _ ih => exact ih hplace
  | up _ _ ih => exact ih hplace
  | create _ _ _ hg =>
    cases hplace
    exact hg
  | enter _ _ _ _ _ _ ih => exact ih hplace
  | follow _ _ _ _ _ ih => exact ih hplace

theorem get?_of_vacant {p : Path} {l : Location} (h : s.locate purpose p = .ok (.vacant l)) :
    s.get? l = none :=
  (reach_eq_ok_iff.1 (locate_eq_vacant_iff.1 h)).2.2.2.get?_of_vacant

end BlobSource.Store
