import ServiceLocator.Call.Error
import ServiceLocator.Call.Event
import ServiceLocator.Locator.Descriptor

/-!
Reading a listing and choosing from it. Entries that describe no service are
skipped; of the others the first one of the wanted role decides, also when it has no
address for this caller.
-/
namespace ServiceLocator.Listing

/-- Where events about listings originate. -/
def origin : String := "locator_rest_client::client::resolver"

/-- The entries that describe a service, in order. -/
def descriptors (entries : List Json.Value) : List Descriptor :=
  entries.filterMap fun entry => (Descriptor.ofValue entry).toOption

/-- One event for each entry that does not. -/
def skipEvents (entries : List Json.Value) : List Event :=
  entries.filterMap fun entry =>
    match Descriptor.ofValue entry with
    | .ok _ => none
    | .error cause =>
      some ⟨.debug, origin, "skipping locator entry", [("error", .plain cause.message)]⟩

/-- The address of a service for a caller. -/
def select (services : List Descriptor) (name : String) (caller : Caller) :
    Except CallError String :=
  match (services.find? (·.role == name)).bind (·.addressFor caller) with
  | some address => .ok address
  | none => .error (.serviceNotFound name)

/-- The event of a service that was found. -/
def foundEvent (name address : String) (caller : Caller) : Event :=
  ⟨.debug, origin, "resolved service", [("service", .quoted name), ("address", .quoted address),
    ("external", .flag caller.isExternal)]⟩

/-- The events of a choice: one if a service was found. -/
def selectEvents (services : List Descriptor) (name : String) (caller : Caller) : List Event :=
  match select services name caller with
  | .ok address => [foundEvent name address caller]
  | .error _ => []

end ServiceLocator.Listing
