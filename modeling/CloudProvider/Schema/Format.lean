import CloudProvider.Cidr
import CloudProvider.Mysql.Privilege
import CloudProvider.Value

/-!
# Formats of attribute values

A format is a set of values with a rule and messages of its own.

* `Format.check`: whether a value has a format.
-/

namespace CloudProvider

/-- A set of values with a rule of its own. -/
inductive Format where
  /-- A block of addresses, named by its first one. -/
  | cidr
  /-- A list of privileges on a database that is not empty. -/
  | privileges
  deriving DecidableEq, Repr

namespace Format

def name : Format → String
  | .cidr => "Cidr"
  | .privileges => "DatabasePrivileges"

/-- The value that stands for an attribute without one. -/
def zero : Format → Value
  | .cidr => .text ""
  | .privileges => .list []

/-- Whether every item of a list is a privilege; the first that is not is reported. -/
def checkPrivileges : List Value → Except String Unit
  | [] => .ok ()
  | .text p :: rest =>
    if p ∈ Mysql.databasePrivileges then checkPrivileges rest
    else
      let known := ", ".intercalate Mysql.databasePrivileges
      .error s!"Invalid privilege '{p}', expected one of: {known}"
  | _ :: _ => .error "Expected string privilege"

/-- **Whether a value has a format**, with a message if not. -/
def check : Format → Value → Except String Unit
  | .cidr, .text s => (Cidr.check s).mapError Cidr.Fault.message
  | .cidr, _ => .error "Expected string"
  | .privileges, .list [] => .error "At least one privilege is required"
  | .privileges, .list items => checkPrivileges items
  | .privileges, _ => .error "Expected list of privileges"

end Format

end CloudProvider
