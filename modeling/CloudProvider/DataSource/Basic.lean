import CloudProvider.Api

/-!
# Data sources

A data source looks up entities that match the attributes of a resource. It gives them as a list
under one attribute, together with the attributes that it was asked with.

* `Found`: what a data source gives.
* `Found.listing`: the attributes that it was asked with, and the list.
* `Found.idText`: an identifier made of two filters.
-/

namespace CloudProvider

/-- What a data source gives: an identifier made of what it was asked with, and attributes. -/
structure Found where
  identifier : String
  attributes : Attributes

/-- A data source. -/
abbrev DataSource := Resource → Api Found

/-- The attributes of a resource under some keys, and a list of items under another one. -/
def Found.listing (r : Resource) (echoed : List String) (listName : String) (items : List Value) :
    Attributes :=
  let given := echoed.filterMap fun key => (r.attributes.get? key).map fun v => (key, v)
  (Fields.ofList given).insert listName (.list items)

/-- The identifier of a data source that was asked with two filters, each of which may be unset. -/
def Found.idText (type : String) (first second : Option String) : String :=
  type ++ first.getD "" ++ "_" ++ second.getD ""

end CloudProvider
