import AroundMuseo.Core.Projection
import AroundMuseo.Platform.Scenario

/-!
# Several devices

The app on several devices, each with a state of its own. The accounts, the documents and
the stored objects are the same for all of them.
-/

namespace AroundMuseo

open Async Firestore

/-- What the services keep for all devices. -/
structure Cloud where
  accounts : AList fun _ : String => Account
  db : CollectionName → Collection
  storage : AList fun _ : String => List UInt8
  downloadUrls : AList fun _ : String => String

/-- What a device sees of the services. -/
def World.cloud (w : World) : Cloud := ⟨w.accounts, w.db, w.storage, w.downloadUrls⟩

/-- A device that sees the services as they are. -/
def World.withCloud (w : World) (cloud : Cloud) : World :=
  { w with
    accounts := cloud.accounts
    db := cloud.db
    storage := cloud.storage
    downloadUrls := cloud.downloadUrls }

/-- The services and the devices. -/
structure Fleet (δ : Type) where
  cloud : Cloud
  devices : δ → World

namespace Fleet

variable {δ : Type} [DecidableEq δ]

/-- The state of the app on a device. -/
def see (d : δ) (f : Fleet δ) : World := (f.devices d).withCloud f.cloud

/-- The app on a device has done something. -/
def put (d : δ) (w : World) (f : Fleet δ) : Fleet δ where
  cloud := w.cloud
  devices := Function.update f.devices d w

theorem see_put (d : δ) (w : World) (f : Fleet δ) : (f.put d w).see d = w := by
  have hdevice : (f.put d w).devices d = w := by simp [put]
  rw [see, hdevice]
  rfl

omit [DecidableEq δ] in
@[simp] theorem cloud_see (d : δ) (f : Fleet δ) : (f.see d).cloud = f.cloud := rfl

@[simp] theorem cloud_put (d : δ) (w : World) (f : Fleet δ) : (f.put d w).cloud = w.cloud := rfl

/-- Each operation runs on a device. -/
def parts {ι : Type} (device : ι → δ) : Parts ι World (Fleet δ) where
  get i f := f.see (device i)
  set i w f := f.put (device i) w
  get_set i w f := f.see_put (device i) w

/-- What changes the services by calls only does so on a device. -/
theorem confined_named {ι : Type} {ok : Call → Prop} {p : App Unit} (hp : p.Confined ok World.cloud)
    (device : ι → δ) (i : ι) :
    (p.named (Fleet.parts device) i).Confined (fun c => c.1 = i ∧ ok c.2) Fleet.cloud :=
  hp.named fun _ _ h => h

/-- What the calls do to the services they do on every device. -/
theorem showsOn_named {ι υ : Type} {ok : Call → Prop} {view : Cloud → υ} {act : υ → Event → υ}
    (h : platform.ShowsOn ok (fun w => view w.cloud) act) (device : ι → δ) :
    (platform.named (Fleet.parts device)).ShowsOn (fun c => ok c.2) (fun f => view f.cloud)
      fun v ev => act v (ev.seen (Fleet.parts device)) :=
  h.named (fun _ _ => rfl) fun _ _ _ => rfl

end Fleet

end AroundMuseo
