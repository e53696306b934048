import DriveWebdav.Foundation.InsertionMap
import DriveWebdav.Foundation.Text

/-! # The overwrite guard

Paths that a failed PUT has protected from the client's cleanup DELETE, each
until a moment. -/

namespace DriveWebdav

def OVERWRITE_PROTECT_MS : Nat := 120000

structure OverwriteGuard where
  «until» : InsertionMap JsString Nat

namespace OverwriteGuard

def empty : OverwriteGuard := ⟨.empty⟩

def prune (guard : OverwriteGuard) (now : Nat) : OverwriteGuard where
  «until» := guard.until.filter fun _ expiry => now < expiry

def protect (guard : OverwriteGuard) (path : JsString) (now : Nat) : OverwriteGuard where
  «until» := (guard.prune now).until.set path (now + OVERWRITE_PROTECT_MS)

/-- Whether a DELETE of `path` is refused now, and the guard once pruned. -/
def isProtected (guard : OverwriteGuard) (path : JsString) (now : Nat) :
    Bool × OverwriteGuard :=
  let pruned := guard.prune now
  match pruned.until.get path with
  | none => (false, pruned)
  | some expiry => (decide (now < expiry), pruned)

def release (guard : OverwriteGuard) (path : JsString) : OverwriteGuard where
  «until» := guard.until.delete path

/-- The moment until which `path` is protected. -/
def expiry (guard : OverwriteGuard) (path : JsString) : Option Nat := guard.until.get path

/-- The guard refuses a DELETE of `path` at every moment before `moment`. -/
def Covers (guard : OverwriteGuard) (path : JsString) (moment : Nat) : Prop :=
  ∃ expiry, guard.expiry path = some expiry ∧ moment ≤ expiry

theorem isProtected_iff {guard : OverwriteGuard} {path : JsString} {now : Nat} :
    (guard.isProtected path now).1 = true ↔ guard.Covers path (now + 1) := by
  simp only [isProtected, Covers, expiry, Nat.succ_le_iff]
  constructor
  · intro refused
    cases found : (guard.prune now).until.get path with
    | none => simp [found] at refused
    | some expiry =>
        rw [prune, InsertionMap.get_filter] at found
        exact ⟨expiry, found.1, of_decide_eq_true found.2⟩
  · rintro ⟨expiry, found, later⟩
    have kept : (guard.prune now).until.get path = some expiry := by
      rw [prune, InsertionMap.get_filter]
      exact ⟨found, decide_eq_true later⟩
    simp [kept, later]

theorem covers_prune {guard : OverwriteGuard} {path : JsString} {moment now : Nat}
    (covers : guard.Covers path moment) (early : now < moment) :
    (guard.prune now).Covers path moment := by
  rcases covers with ⟨expiry, found, later⟩
  refine ⟨expiry, ?_, later⟩
  rw [DriveWebdav.OverwriteGuard.expiry, prune, InsertionMap.get_filter]
  exact ⟨found, decide_eq_true (by omega)⟩

@[simp] theorem isProtected_snd (guard : OverwriteGuard) (path : JsString) (now : Nat) :
    (guard.isProtected path now).2 = guard.prune now := by
  simp only [isProtected]
  split <;> rfl

theorem covers_protect_self {guard : OverwriteGuard} {path : JsString} {now : Nat} :
    (guard.protect path now).Covers path (now + OVERWRITE_PROTECT_MS) :=
  ⟨_, by simp [protect, expiry], Nat.le_refl _⟩

/-- Protecting any path, now or later, takes nothing from a protection that
still runs. -/
theorem covers_protect {guard : OverwriteGuard} {path other : JsString} {moment now : Nat}
    (covers : guard.Covers path moment) (early : now < moment)
    (window : moment ≤ now + OVERWRITE_PROTECT_MS) :
    (guard.protect other now).Covers path moment := by
  by_cases same : path = other
  · subst same
    exact ⟨_, by simp [protect, expiry], window⟩
  · rcases covers_prune covers early with ⟨expiry, found, later⟩
    refine ⟨expiry, ?_, later⟩
    rw [DriveWebdav.OverwriteGuard.expiry, protect, InsertionMap.get_set_of_ne _ _ same]
    exact found

theorem covers_release_of_ne {guard : OverwriteGuard} {path other : JsString} {moment : Nat}
    (covers : guard.Covers path moment) (different : path ≠ other) :
    (guard.release other).Covers path moment := by
  rcases covers with ⟨expiry, found, later⟩
  refine ⟨expiry, ?_, later⟩
  rw [DriveWebdav.OverwriteGuard.expiry, release, InsertionMap.get_delete_of_ne _ different]
  exact found

end OverwriteGuard

end DriveWebdav
