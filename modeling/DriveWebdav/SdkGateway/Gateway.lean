import DriveWebdav.SdkGateway.Operations
import DriveWebdav.SdkGateway.Read

/-! # The gateway over the SDK -/

namespace DriveWebdav

def quota : SdkOperation Quota :=
  tryCatch
    (do
      let user ← Program.request SdkCall.getUser
      let available :=
        match user.usedSpace, user.maxSpace with
        | some used, some max => some (Max.max 0 (max - used))
        | _, _ => none
      pure ⟨user.usedSpace, available⟩)
    (fun _ => pure ⟨none, none⟩)

def sdkGateway (platform : Platform) : DriveGateway SdkCall SdkAnswer ReadStream where
  stat := stat platform
  list := list platform
  read := read platform
  put := put platform
  mkcol := mkcol platform
  remove := remove platform
  move := move platform
  copy := copy platform
  quota := quota

end DriveWebdav
