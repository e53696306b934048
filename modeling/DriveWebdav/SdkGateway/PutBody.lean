import DriveWebdav.SdkGateway.CacheAccess
import DriveWebdav.SdkGateway.Faults

/-! # The body of an upload that is refused

An upload that is not carried out is to let go of its body before it answers:
the client waits on a stream that nobody else reads. -/

namespace DriveWebdav

/-! ## What a refused upload is to do -/

/-- An upload that was not carried out: it rejects, or skips identical content. -/
def Refused (outcome : Except Thrown PutResult) : Prop :=
  (∃ error, outcome = .error error) ∨ outcome = .ok .skippedIdentical

def Cancelled (trace : SdkTrace) : Prop :=
  ∃ answer, .exchange .cancelBody answer ∈ trace ∨ .exchange .releaseBody answer ∈ trace

/-- Only the SDK reads a body, once it has been handed one. -/
def HandedOver (trace : SdkTrace) : Prop :=
  ∃ uploader stream answer, .exchange (.uploadFromStream uploader stream) answer ∈ trace

/-- The body was cancelled, or read to its end by the SDK. -/
def LetsBodyGo (readToEnd : Prop) (trace : SdkTrace) : Prop :=
  Cancelled trace ∨ (HandedOver trace ∧ readToEnd)

/-- A call of the second lookup fails, the one of the target, once the first has
found the collection above it. -/
def TargetLookupFails (platform : Platform) (path : JsString) (trace : SdkTrace) : Prop :=
  ∃ first second parent error, trace = first ++ second ∧
    (resolve platform (parentPath (normalize path)) false).Follows first (.ok (some parent)) ∧
    parent.type = .folder ∧
    (resolve platform (normalize path) true).Follows second (.error error)

section

variable {platform : Platform} {path : JsString} {body : BodyStream} {opts : PutOptions}
  {first second trace : SdkTrace} {outcome : Except Thrown PutResult}

private theorem Cancelled.left (cancelled : Cancelled first) : Cancelled (first ++ second) := by
  rcases cancelled with ⟨answer, member | member⟩
  · exact ⟨answer, .inl (List.mem_append_left _ member)⟩
  · exact ⟨answer, .inr (List.mem_append_left _ member)⟩

private theorem Cancelled.right (cancelled : Cancelled second) : Cancelled (first ++ second) := by
  rcases cancelled with ⟨answer, member | member⟩
  · exact ⟨answer, .inl (List.mem_append_right _ member)⟩
  · exact ⟨answer, .inr (List.mem_append_right _ member)⟩

/-- A body that `cancel` is asked to cancel is let go, whatever `cancel` answers. -/
private theorem cancelled_caught {α : Type} {command : SdkCall}
    {recover : Thrown → SdkOperation (SdkAnswer command)}
    {next : SdkAnswer command → SdkOperation α} {outcome : Except Thrown α}
    (releases : command = .cancelBody ∨ command = .releaseBody)
    (follows : (tryCatch (Program.request command) recover >>= next).Follows trace outcome) :
    Cancelled trace := by
  have asked : ∀ {met : SdkTrace} {answer}, Program.Follows (Program.request command) met answer →
      Cancelled met := by
    intro met answer requested
    rw [Program.follows_request requested]
    rcases releases with rfl | rfl
    · exact ⟨answer, .inl List.mem_cons_self⟩
    · exact ⟨answer, .inr List.mem_cons_self⟩
  have caught : ∀ {met : SdkTrace} {answer},
      (tryCatch (Program.request command) recover).Follows met answer → Cancelled met := by
    intro met answer tried
    rcases Program.follows_tryCatch tried with ⟨_, _, requested⟩ | ⟨_, _, _, rfl, requested, _⟩
    · exact asked requested
    · exact (asked requested).left
  rcases Program.follows_bind follows with ⟨_, _, tried⟩ | ⟨_, _, _, rfl, tried, _⟩
  · exact caught tried
  · exact (caught tried).left

private theorem cancelled_refusePut {error : GatewayError}
    (follows : (refusePut error : SdkOperation PutResult).Follows trace outcome) :
    Cancelled trace :=
  cancelled_caught (.inl rfl) follows

/-- An upload that fails releases the body it was given. -/
private theorem cancelled_upload {p : JsString} {parent : NodeEntity} {revisionOfUid : Option Uid}
    (follows : (upload platform p parent revisionOfUid body opts).Follows trace outcome)
    (refused : Refused outcome) : Cancelled trace := by
  rcases Program.follows_tryCatch follows with ⟨result, rfl, uploaded⟩ | ⟨_, _, _, rfl, _, abandoned⟩
  · rcases refused with ⟨error, equal⟩ | equal
    · cases equal
    · cases equal
      rcases Program.follows_bind uploaded with ⟨_, equal, _⟩ | ⟨_, _, uploader, rfl, _, rest⟩
      · cases equal
      · rcases Program.follows_bind rest with ⟨_, equal, _⟩ | ⟨_, _, controller, rfl, _, rest⟩
        · cases equal
        · rcases Program.follows_bind rest with ⟨_, equal, _⟩ | ⟨_, _, _, rfl, _, rest⟩
          · cases equal
          · rcases Program.follows_bind rest with ⟨_, equal, _⟩ | ⟨_, _, _, rfl, _, ended⟩
            · cases equal
            · cases revisionOfUid with
              | none => cases ended
              | some uid => cases ended
  · rcases Program.follows_bind abandoned with ⟨_, _, released⟩ | ⟨_, _, _, rfl, released, _⟩
    · exact (cancelled_caught (.inr rfl) released).right
    · exact (cancelled_caught (.inr rfl) released).left.right

private theorem cancelled_putInto {p : JsString} {parent : NodeEntity}
    (follows : (putInto platform p parent body opts).Follows trace outcome)
    (refused : Refused outcome) :
    Cancelled trace ∨ ∃ error, (resolve platform p true).Follows trace (.error error) := by
  rcases Program.follows_bind follows with ⟨error, _, failed⟩ | ⟨_, _, existing, rfl, _, rest⟩
  · exact .inr ⟨error, failed⟩
  · left
    apply Cancelled.right
    split at rest
    · exact cancelled_refusePut rest
    · exact cancelled_caught (.inl rfl) rest
    · exact cancelled_refusePut rest
    · exact cancelled_upload rest refused
    · exact cancelled_upload rest refused

/-- An upload whose parent is looked up in vain is refused with its body let go. -/
private theorem resolveParent_ends {p : JsString} {looked : Except Thrown (Option NodeEntity)}
    (follows : (resolveParent platform p).Follows trace looked) :
    Cancelled trace ∨ ∃ found, looked = .ok found ∧
      (resolve platform (parentPath p) false).Follows trace (.ok found) := by
  rcases Program.follows_tryCatch follows with ⟨found, rfl, ended⟩ | ⟨_, _, _, rfl, _, refused⟩
  · exact .inr ⟨found, rfl, ended⟩
  · exact .inl (cancelled_caught (.inl rfl) refused).right

private theorem cancelled_put
    (follows : (put platform path body opts).Follows trace outcome) (refused : Refused outcome) :
    Cancelled trace ∨ TargetLookupFails platform path trace := by
  unfold put at follows
  dsimp only at follows
  split at follows
  · exact .inl (cancelled_refusePut follows)
  split at follows
  · exact .inl (cancelled_refusePut follows)
  split at follows
  · exact .inl (cancelled_refusePut follows)
  rcases Program.follows_bind follows with ⟨_, _, failed⟩ | ⟨first, second, found, rfl, looked, rest⟩
  · rcases resolveParent_ends failed with cancelled | ⟨_, equal, _⟩
    · exact .inl cancelled
    · cases equal
  · rcases resolveParent_ends looked with cancelled | ⟨_, equal, resolved⟩
    · exact .inl cancelled.left
    · cases equal
      cases found with
      | none => exact .inl (cancelled_refusePut rest).right
      | some parent =>
          dsimp only at rest
          split at rest
          · exact .inl (cancelled_refusePut rest).right
          · next folder =>
              rcases cancelled_putInto rest refused with cancelled | ⟨error, failed⟩
              · exact .inl cancelled.right
              · exact .inr ⟨first, second, parent, error, rfl, resolved,
                  Decidable.of_not_not folder, failed⟩

/-- While paths are looked up, the body is neither cancelled nor read. -/
private theorem TargetLookupFails.only_lookups {command : SdkCall}
    {answer : Except Thrown (SdkAnswer command)}
    (fails : TargetLookupFails platform path trace) (member : .exchange command answer ∈ trace) :
    command.isLookup = true := by
  rcases fails with ⟨first, second, parent, error, rfl, found, _, failed⟩
  rcases List.mem_append.mp member with member | member
  · exact (looksUp_resolve _ _).issued found command answer member
  · exact (looksUp_resolve _ _).issued failed command answer member

/-- An upload that is refused lets go of its body exactly if the lookup of its
target does not fail. -/
theorem letsBodyGo_iff (readToEnd : Prop)
    (follows : (put platform path body opts).Follows trace outcome) (refused : Refused outcome) :
    LetsBodyGo readToEnd trace ↔ ¬TargetLookupFails platform path trace := by
  constructor
  · intro letGo fails
    rcases letGo with ⟨answer, member | member⟩ | ⟨⟨uploader, stream, answer, member⟩, _⟩
    · cases fails.only_lookups member
    · cases fails.only_lookups member
    · cases fails.only_lookups member
  · intro found
    rcases cancelled_put follows refused with cancelled | fails
    · exact .inl cancelled
    · exact absurd fails found

end

/-! ## A lookup that fails -/

def rootFolder : NodeEntity := ⟨0, none, ⟨true, []⟩, .folder, false, none, none, ⟨some 0⟩⟩

def knownRoot : ServiceMemory := { ServiceMemory.initial 0 with rootUid := some 0 }

def offline : Thrown := .sdk ⟨.connection, "fetch failed"⟩

/-- The connection is lost while the parent is looked up. -/
def lostAtParent : SdkTrace :=
  [.access knownRoot, .exchange (.getNode 0) (.error offline), .exchange .cancelBody (.ok ())]

theorem lostAtParent_letsBodyGo : LetsBodyGo False lostAtParent := by
  have follows : (put (.plain []) "/a" .done ⟨none, none, none, true, none⟩).Follows
      lostAtParent (.error (mapGenericError (.plain []) offline)) :=
    .update _ (.await _ (.await _ (.fail _)))
  apply (letsBodyGo_iff False follows (.inl ⟨_, rfl⟩)).mpr
  intro fails
  cases fails.only_lookups (.tail _ (.tail _ (.head _)))

/-- The connection is lost once the parent has been found. -/
def lostAtTarget : SdkTrace :=
  [.access knownRoot, .exchange (.getNode 0) (.ok rootFolder),
    .access knownRoot, .access knownRoot, .exchange (.getNode 0) (.error offline)]

/-- The upload rejects, and nobody has cancelled or read its body. -/
theorem lostAtTarget_keeps_body :
    ∃ error, (put (.plain []) "/a" .done ⟨none, none, none, true, none⟩).Follows lostAtTarget
      (.error error) ∧ ¬LetsBodyGo True lostAtTarget := by
  refine ⟨offline, .update _ (.await _ (.update _ (.update _ (.await _ (.fail _))))), ?_⟩
  intro letGo
  simp [LetsBodyGo, Cancelled, HandedOver, lostAtTarget] at letGo

end DriveWebdav
