import Mathlib
import StoreClient.Config

/-!
# What a configuration has to be

`Config.validate` accepts a configuration exactly when it is valid (`validate_eq_ok_iff`): it has
hosts, each with a name and none twice, connections that are opened ahead have a bound, and frames
may be as long as a tag at least. What it refuses is a configuration fault (`validate_error`).
-/

namespace StoreClient.Config

/-- A configuration that a client can work with. -/
structure Valid (c : Config) : Prop where
  hosts : c.hosts ≠ []
  named : ∀ h ∈ c.hosts, h.host ≠ ""
  distinct : (c.hosts.map HostConfig.id).Nodup
  bounded : c.lazyConnect = false → c.maxTotal ≠ 0
  frames : c.maxFrameLength ≠ 0

/-- Hosts pass the check where each has a name and no two are the same. -/
lemma checkHosts_eq_ok_iff (position : Nat) (seen : List HostId) (hosts : List HostConfig) :
    checkHosts position seen hosts = .ok () ↔
      (∀ h ∈ hosts, h.host ≠ "") ∧ (∀ h ∈ hosts, h.id ∉ seen) ∧
        (hosts.map HostConfig.id).Nodup := by
  induction hosts generalizing position seen with
  | nil => simp [checkHosts]
  | cons h hosts ih =>
    unfold checkHosts
    split
    · rename_i unnamed
      simp [unnamed]
    · rename_i named
      split
      · rename_i known
        simp [known]
      · rename_i new
        rw [ih, List.map_cons, List.nodup_cons]
        constructor
        · rintro ⟨names, fresh, distinct⟩
          refine ⟨?_, ?_, ?_, distinct⟩
          · simpa using ⟨named, names⟩
          · simpa using ⟨new, fun h' m seen => fresh h' m (List.mem_cons_of_mem _ seen)⟩
          · intro m
            obtain ⟨h', m', same⟩ := List.mem_map.1 m
            exact fresh h' m' (same ▸ List.mem_cons_self)
        · rintro ⟨names, fresh, other, distinct⟩
          refine ⟨fun h' m => names h' (List.mem_cons_of_mem _ m), fun h' m => ?_, distinct⟩
          rw [List.mem_cons, not_or]
          exact ⟨fun same => other (same ▸ List.mem_map_of_mem m),
            fresh h' (List.mem_cons_of_mem _ m)⟩

/-- Hosts are refused with a fault of the configuration. -/
lemma checkHosts_error {position : Nat} {seen : List HostId} {hosts : List HostConfig}
    {fault : Fault} (e : checkHosts position seen hosts = .error fault) :
    ∃ cause, fault = .configuration cause := by
  induction hosts generalizing position seen with
  | nil => cases e
  | cons h hosts ih =>
    unfold checkHosts at e
    split at e
    · exact ⟨_, (Except.error.inj e).symm⟩
    · split at e
      · exact ⟨_, (Except.error.inj e).symm⟩
      · exact ih e

/-- What is wrong with a configuration besides its hosts. -/
lemma validate_of_checkHosts {c : Config} (hosts : c.hosts ≠ [])
    (checked : checkHosts 0 [] c.hosts = .ok ()) :
    c.validate =
      if c.lazyConnect = false ∧ c.maxTotal = 0 then .error (.configuration .unboundedPrefill)
      else if c.maxFrameLength = 0 then .error (.configuration .zeroFrameLength)
      else .ok () := by
  unfold validate
  rw [if_neg hosts, checked]
  split
  · rfl
  · split <;> rfl

/-- Just the valid configurations pass the check. -/
theorem validate_eq_ok_iff (c : Config) : c.validate = .ok () ↔ c.Valid := by
  by_cases hosts : c.hosts = []
  · have refused : c.validate = .error (.configuration .noHosts) := by
      unfold validate
      rw [if_pos hosts]
      rfl
    rw [refused]
    exact iff_of_false (by simp) (fun valid => valid.hosts hosts)
  · have listed := checkHosts_eq_ok_iff 0 [] c.hosts
    cases checked : checkHosts 0 [] c.hosts with
    | error fault =>
      have refused : c.validate = .error fault := by
        unfold validate
        rw [if_neg hosts, checked]
        rfl
      rw [refused]
      refine iff_of_false (by simp) fun valid => ?_
      rw [checked] at listed
      cases listed.2 ⟨valid.named, by simp, valid.distinct⟩
    | ok u =>
      obtain ⟨named, _, distinct⟩ := listed.1 checked
      rw [validate_of_checkHosts hosts checked]
      split
      · rename_i unbounded
        exact iff_of_false (by simp) (fun valid => valid.bounded unbounded.1 unbounded.2)
      · rename_i bounded
        split
        · rename_i none_
          exact iff_of_false (by simp) (fun valid => valid.frames none_)
        · rename_i frames
          exact iff_of_true rfl
            ⟨hosts, named, distinct, fun eager zero => bounded ⟨eager, zero⟩, frames⟩

/-- A configuration is refused with a fault of the configuration. -/
theorem validate_error {c : Config} {fault : Fault} (e : c.validate = .error fault) :
    ∃ cause, fault = .configuration cause := by
  by_cases hosts : c.hosts = []
  · unfold validate at e
    rw [if_pos hosts] at e
    exact ⟨_, (Except.error.inj e).symm⟩
  · cases checked : checkHosts 0 [] c.hosts with
    | error cause =>
      unfold validate at e
      rw [if_neg hosts, checked] at e
      obtain rfl : cause = fault := Except.error.inj e
      exact checkHosts_error checked
    | ok u =>
      rw [validate_of_checkHosts hosts checked] at e
      split at e
      · exact ⟨_, (Except.error.inj e).symm⟩
      · split at e
        · exact ⟨_, (Except.error.inj e).symm⟩
        · cases e

end StoreClient.Config
