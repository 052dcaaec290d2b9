import Mathlib.Tactic
import GuardTime.System.Run

/-! # Two households

Rows for the concrete states on which statements are shown to fail or to apply: the parents `amal`
and `basma`, each with a child, a gateway and a device with the defaults of the schema. From an
empty database, `family` makes an account with a child. -/

namespace GuardTime.Household

open GuardTime.Lib.Keyed GuardTime.Lib.Js GuardTime.Schema GuardTime.Server GuardTime.Services
open GuardTime.System.Run

/-- A parent's account. -/
def parent (id : String) : User :=
  ⟨id, id ++ "@example.com", "secret", .parent, none, none, none, 0, none, 0, 0⟩

/-- A child of the parent. -/
def child (id parentId : String) : Child := ⟨id, parentId, id, none, none, none, 0, 0⟩

/-- A paired gateway of the parent. -/
def gateway (id parentId : String) : Gateway :=
  ⟨id, parentId, id, none, .softwareAgent, id ++ "-token", none, true, some 0, none, none, 0,
    0, none,
    none⟩

/-- A device of the parent for the child. -/
def device (id parentId childId : String) : Device :=
  Devices.newDevice id parentId (some childId) id .androidPhone 0

theorem nodup_device (id parentId childId : String) :
    ([device id parentId childId].map Device.id).Nodup := List.nodup_singleton _

theorem nodup_gateway (id parentId : String) :
    ([gateway id parentId].map Gateway.id).Nodup := List.nodup_singleton _

/-- The accounts and children, without gateways and devices. -/
def families : Database where
  __ := Database.empty
  users := ⟨[parent "amal", parent "basma"], by decide⟩
  children := ⟨[child "adam" "amal", child "badr" "basma"], by decide⟩

/-- The families with the given devices. -/
def withDevices (ds : List Device) (h : (ds.map Device.id).Nodup) : Database :=
  { families with
    gateways := ⟨[gateway "ga" "amal", gateway "gb" "basma"], by decide⟩
    devices := ⟨ds, h⟩ }

/-- An account is made, and a child for it. -/
def family (t : Time) (email userId child : String) : List Step :=
  [⟨t, .register ⟨email, "secret", none, none⟩⟩, ⟨t, .createChild userId { name := child }⟩]

/-- A device for the child. -/
def addDevice (t : Time) (userId childId name : String) (ipAddress : Option String) : Step :=
  ⟨t, .createDevice userId { childId, name, type := .androidPhone, ipAddress }⟩

end GuardTime.Household
