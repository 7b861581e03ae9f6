import CloudProvider.Proofs.Attributes

/-!
# What a network is to its user

Of all that the remote knows about a network, its user gives four things and reads them back.

* `Network.Entry`: the four things.
* `Network.Entry.written`: those that desired attributes give.
* `Network.Entry.Shown`, `Network.Entry.ShownBy`: those that attributes and states show.
* **`Network.Entry.shown_complete`**: the attributes that are read of a network show its entry.
* **`Network.Entry.required_name`**, `Network.Entry.required_cidrBlock`, …: what conforming
  attributes send.
-/

namespace CloudProvider

open Catalog Provider

namespace Network

/-- What a user knows of a network. -/
@[ext]
structure Entry where
  name : String
  cidrBlock : String
  isMulticast : Bool
  dnsServers : List String
  deriving DecidableEq, Repr

/-- The entry of a network. -/
def Vpc.entry (v : Vpc) : Entry := ⟨v.name, v.cidrBlock, v.isMulticast, v.dnsServers⟩

namespace Entry

/-- **The entry that desired attributes give.** The flag is set unless they say otherwise, and
without servers of their own they keep some. -/
def written (r : Resource) (servers : List String) : Entry where
  name := (r.text? "name").getD ""
  cidrBlock := (r.text? "cidr_block").getD ""
  isMulticast := r.boolOr "is_multicast" true
  dnsServers := (r.texts? "dns_servers").getD servers

/-- **Whether attributes show an entry.** -/
structure Shown (e : Entry) (attributes : Attributes) : Prop where
  name : attributes.get? "name" = some (.text e.name)
  cidrBlock : attributes.get? "cidr_block" = some (.text e.cidrBlock)
  isMulticast : attributes.get? "is_multicast" = some (.bool e.isMulticast)
  dnsServers : attributes.get? "dns_servers" = some (.texts e.dnsServers)

/-- Whether a state is that of a network with an entry, under an identifier. -/
def ShownBy (e : Entry) (id : ResourceId) (identifier : String) (st : State) : Prop :=
  ∃ attributes, st = .existing id (some identifier) attributes ∧ e.Shown attributes

end Entry

end Network

/-! ## The schema of networks -/

namespace Catalog

theorem vpcSchema_nodup : vpcSchema.attributes.keys.Nodup := LifecycleKind.vpc.schema_nodup

theorem vpcSchema_readBack : ∀ d ∈ vpcSchema.attributes, d.2.writeOnly = false := by
  decide +kernel

theorem vpcSchema_forceNew :
    ∀ d ∈ vpcSchema.attributes, d.2.forceNew = true ↔ d.1 = "cidr_block" := by
  decide +kernel

/-- Every declared attribute is found under its name. -/
theorem get?_vpcSchema {a : Attribute} (ha : a ∈
    [{ name := "name", type := nameType, required := true },
     cidrBlockAttribute "cidr_block",
     { name := "dns_servers", type := .listBetween .text 1 4, computed := true,
       description := some "Defaults to the platform resolvers when unset" },
     multicastAttribute,
     reported "is_default" .bool "Whether this is the default VPC",
     reported "create_time" .text "Creation time"]) :
    vpcSchema.attributes.get? a.name = some a :=
  Schema.get?_ofAttributes (by decide) ha

end Catalog

namespace Network.Entry

variable {r prepared : Resource} {servers : List String}

/-! ## Entries that are read -/

theorem shown_attributes (v : Vpc) : v.entry.Shown v.attributes where
  name := by simp [Vpc.attributes, Vpc.entry, Fields.ofList]
  cidrBlock := by simp [Vpc.attributes, Vpc.entry, Fields.ofList]
  isMulticast := by simp [Vpc.attributes, Vpc.entry, Fields.ofList]
  dnsServers := by simp [Vpc.attributes, Vpc.entry, Fields.ofList]

theorem Shown.complete {e : Entry} {attributes : Attributes} (h : e.Shown attributes) :
    e.Shown (vpcSchema.complete attributes) := by
  have hkept : ∀ {key : String} {v : Value}, attributes.get? key = some v →
      (vpcSchema.complete attributes).get? key = some v := by
    intro key v hv
    rw [Schema.complete, Schema.get?_fill vpcSchema_nodup, hv]
    rfl
  exact ⟨hkept h.name, hkept h.cidrBlock, hkept h.isMulticast, hkept h.dnsServers⟩

/-- **The attributes of a network show its entry.** -/
theorem shown_complete (v : Vpc) : v.entry.Shown (vpcSchema.complete v.attributes) :=
  (shown_attributes v).complete

/-! ## Entries that are written -/

theorem written_withDefaults :
    written { r with attributes := vpcSchema.withDefaults r.attributes } servers =
      written r servers := by
  have hget : ∀ key a, vpcSchema.attributes.get? key = some a →
      (vpcSchema.withDefaults r.attributes).get? key = (r.attributes.get? key).or a.default := by
    intro key a ha
    rw [Schema.withDefaults, Schema.get?_fill vpcSchema_nodup, ha]
    rfl
  have hname := hget "name" _ (get?_vpcSchema (.head _))
  have hcidr := hget "cidr_block" _ (get?_vpcSchema (.tail _ (.head _)))
  have hdns := hget "dns_servers" _ (get?_vpcSchema (.tail _ (.tail _ (.head _))))
  have hmulticast := hget "is_multicast" _
    (get?_vpcSchema (.tail _ (.tail _ (.tail _ (.head _)))))
  rw [Option.or_none] at hname hdns
  rw [cidrBlockAttribute, Option.or_none] at hcidr
  simp only [written, Resource.text?, Resource.texts?, Resource.boolOr, Resource.bool?, hname,
    hcidr, hmulticast, hdns]
  cases r.attributes.get? "is_multicast" with
  | none => rfl
  | some v => rfl

variable (servers) in
theorem conforms_of_prepare (h : prepare vpcSchema r = .ok prepared) :
    vpcSchema.violations prepared.attributes = [] ∧
      written prepared servers = written r servers := by
  obtain ⟨hnone, rfl⟩ := prepare_eq_ok.mp h
  exact ⟨hnone, written_withDefaults⟩

theorem text?_name (h : prepare vpcSchema r = .ok prepared) :
    prepared.text? "name" = some (written r servers).name := by
  obtain ⟨hnone, hwritten⟩ := conforms_of_prepare servers h
  have hdeclared : vpcSchema.attributes.get? "name" = some _ := get?_vpcSchema (.head _)
  obtain ⟨v, hv⟩ := Option.isSome_iff_exists.mp
    (Schema.isSome_of_required hnone hdeclared rfl rfl)
  obtain ⟨s, rfl, hmin, -⟩ := AttributeType.check_textBetween.mp
    (Schema.conforms hnone hdeclared hv)
  have hs : s ≠ "" := by
    rintro rfl
    exact absurd hmin (by decide)
  have htext := Resource.text?_of_get? hv hs
  rw [← hwritten, written, htext]
  rfl

theorem text?_cidrBlock (h : prepare vpcSchema r = .ok prepared) :
    prepared.text? "cidr_block" = some (written r servers).cidrBlock ∧
      prepared.attributes.get? "cidr_block" = some (.text (written r servers).cidrBlock) := by
  obtain ⟨hnone, hwritten⟩ := conforms_of_prepare servers h
  have hdeclared : vpcSchema.attributes.get? "cidr_block" = some _ :=
    get?_vpcSchema (.tail _ (.head _))
  obtain ⟨v, hv⟩ := Option.isSome_iff_exists.mp
    (Schema.isSome_of_required hnone hdeclared rfl rfl)
  obtain ⟨s, rfl, hs⟩ := AttributeType.check_cidr (Schema.conforms hnone hdeclared hv)
  have htext := Resource.text?_of_get? hv hs
  rw [← hwritten, written, htext]
  exact ⟨rfl, hv⟩

theorem required_name (h : prepare vpcSchema r = .ok prepared) :
    prepared.required "name" = .ok (written r servers).name := by
  rw [Resource.required, text?_name h]

theorem required_cidrBlock (h : prepare vpcSchema r = .ok prepared) :
    prepared.required "cidr_block" = .ok (written r servers).cidrBlock := by
  rw [Resource.required, (text?_cidrBlock h).1]

theorem boolOr_isMulticast (h : prepare vpcSchema r = .ok prepared) :
    prepared.boolOr "is_multicast" true = (written r servers).isMulticast := by
  rw [← (conforms_of_prepare servers h).2]
  rfl

theorem texts?_dnsServers (h : prepare vpcSchema r = .ok prepared) :
    (prepared.texts? "dns_servers").getD servers = (written r servers).dnsServers := by
  rw [← (conforms_of_prepare servers h).2]
  rfl

theorem ne_nil_of_texts? (h : prepare vpcSchema r = .ok prepared) {given : List String}
    (hgiven : prepared.texts? "dns_servers" = some given) : given ≠ [] := by
  obtain ⟨hnone, -⟩ := conforms_of_prepare [] h
  obtain ⟨v, hv, htexts⟩ := Option.bind_eq_some_iff.mp hgiven
  obtain ⟨items, rfl, hmin, -⟩ := AttributeType.check_listBetween_text.mp
    (Schema.conforms hnone (get?_vpcSchema (.tail _ (.tail _ (.head _)))) hv)
  obtain rfl := Option.some.inj ((Value.texts?_texts items).symm.trans htexts)
  rintro rfl
  exact absurd hmin (by decide)

theorem replacements_eq_nil (h : prepare vpcSchema r = .ok prepared) {e : Entry}
    {current : Attributes} (hshown : e.Shown current) :
    vpcSchema.replacements current prepared.attributes = [] ↔
      (written r servers).cidrBlock = e.cidrBlock := by
  obtain ⟨-, hdesired⟩ : _ ∧ prepared.attributes.get? "cidr_block" =
      some (.text (written r servers).cidrBlock) := text?_cidrBlock h
  rw [Schema.replacements_eq_nil]
  constructor
  · intro hsame
    have hblock := hsame _ (Fields.mem_of_get? (get?_vpcSchema (.tail _ (.head _)))) rfl _ hdesired
    exact (Value.text.inj (Option.some.inj (hshown.cidrBlock.symm.trans hblock))).symm
  · intro hsame d hd hforce v hv
    have hkey := (vpcSchema_forceNew d hd).mp hforce
    rw [hkey] at hv ⊢
    rw [hshown.cidrBlock, ← hsame, ← hdesired, hv]

theorem replacements_ne_nil (h : prepare vpcSchema r = .ok prepared) :
    vpcSchema.replacements [] prepared.attributes ≠ [] := by
  intro hnil
  obtain ⟨-, hdesired⟩ : _ ∧ prepared.attributes.get? "cidr_block" =
      some (.text (written r []).cidrBlock) := text?_cidrBlock h
  have hblock := Schema.replacements_eq_nil.mp hnil _
    (Fields.mem_of_get? (get?_vpcSchema (.tail _ (.head _)))) rfl _ hdesired
  cases hblock

end Network.Entry

end CloudProvider
