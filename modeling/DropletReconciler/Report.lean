import DropletReconciler.Log.Message
import DropletReconciler.Template.Plain

/-!
What the reconciler and the client tell the log.
-/

namespace DropletReconciler

inductive Report where
  | noId (name : String)
  | notFound (id : Int)
  | completed (id : Int)
  | created (name : String) (id : Value)
  | neverCreated (name : String)
  | alreadyGone (id : Value)
  | deleted (id : Value)
  | answered (id name : Value)
  deriving DecidableEq, Repr

/-- The part of the library that a report comes from. -/
inductive Component where
  | reconciler
  | client
  deriving DecidableEq, Repr

def Component.logger : Component → String
  | .reconciler => "dropletsync.providers.digitalocean.external"
  | .client => "dropletsync.providers.digitalocean.client"

def Component.word : Component → String
  | .reconciler => "droplet"
  | .client => "digitalocean-client"

namespace Report

def component : Report → Component
  | .answered _ _ => .client
  | _ => .reconciler

def levelName : Report → String
  | .notFound _ | .created _ _ | .deleted _ => "INFO"
  | _ => "DEBUG"

def template : Report → Template.Plain
  | .noId _ => [.text "Droplet ", .field "name", .text " has no provider ID yet"]
  | .notFound _ => [.text "Droplet ", .field "id", .text " not found"]
  | .completed _ => [.text "Late-initialized droplet ", .field "id", .text " parameters"]
  | .created _ _ => [.text "Created droplet ", .field "name", .text " with ID ", .field "id"]
  | .neverCreated _ =>
    [.text "Droplet ", .field "name", .text " was never created, nothing to delete"]
  | .alreadyGone _ => [.text "Droplet ", .field "id", .text " already gone"]
  | .deleted _ => [.text "Deleted droplet ", .field "id"]
  | .answered _ _ =>
    [.text "Created droplet ", .field "id", .text " (", .field "name", .text ")"]

def values : Report → Table
  | .noId name => [("name", .text name)]
  | .notFound id => [("id", .int id)]
  | .completed id => [("id", .int id)]
  | .created name id => [("name", .text name), ("id", id)]
  | .neverCreated name => [("name", .text name)]
  | .alreadyGone id => [("id", id)]
  | .deleted id => [("id", id)]
  | .answered id name => [("id", id), ("name", name)]

/-- The message and the component it comes from. -/
def text (r : Report) : Except Template.Fault String := do
  let message ← Log.format r.template.source [] r.values
  let bound ← (Log.context [("component", .text r.component.word)]).mapError Template.Fault.tooLong
  pure (message ++ bound)

end Report

end DropletReconciler
