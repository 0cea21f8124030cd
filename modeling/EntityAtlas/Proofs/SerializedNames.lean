import EntityAtlas.Proofs.RelabelledRuns
import EntityAtlas.Proofs.SurrogateNames

/-!
# Serialized names

An application may say what clients see in place of a member. That is a relabelling of all that is
read from the overrides (`relabels_configureMember`), so it shows elsewhere in one way only: as a
custom member, which the entity gets for every configured name without a mapping
(`customProperties_configureMember`). A mapped member therefore gets its new name, and nothing else
happens. The name of a surrogate has no mapping either: the custom member comes before it and takes
its place, so the surrogate is lost (`surrogate_lost_order`).
-/

set_option autoImplicit false

namespace EntityAtlas

/-- Options under which clients see a text in place of a member of a type. -/
def BuildOptions.serializing (options : BuildOptions) (type : TypeExpr) (name shown : String) :
    BuildOptions :=
  { options with
    overrides := options.overrides.configureMember type name [.serializedName (.ofText shown)] }

/-! ## What an override says -/

section Overrides

variable {overrides : Overrides} {type : TypeExpr} {name shown : String}

/-- A name for clients is a relabelling of all that is said about members. -/
theorem relabels_configureMember (visible : shown ≠ "") :
    overrides.Relabels (overrides.configureMember type name [.serializedName (.ofText shown)])
      { key := type.key, name, shown := .ofText shown } where
  clientName owner other := by
    have holds : (Datum.ofText shown).holds = true := by simp [Datum.holds_ofText, visible]
    rw [Overrides.ofMember_configureMember, Relabelling.clientName]
    split
    · simp [MemberOverride.apply, MemberOverride.clientName?, holds]
    · rfl
  defaultValue owner other := by
    rw [Overrides.ofMember_configureMember]
    split <;> rfl
  ignored owner other := by
    rw [Overrides.ofMember_configureMember]
    split <;> rfl

theorem resourceName_configureMember (settings : List MemberSetting) (owner : TypeExpr) :
    ((overrides.configureMember type name settings).ofType owner).resourceName =
      (overrides.ofType owner).resourceName := by
  rw [Overrides.ofType_configureMember]
  split
  next same => rw [Overrides.ofType, Overrides.ofType, same]
  next => rfl

end Overrides

/-! ## Custom members -/

section Customs

variable {scope : Scope} {entity : Entity} {name shown : String}

/-- The custom member that an entity gets for a name of which only the name for clients is known. -/
def DataProperty.custom (name shown : String) : DataProperty :=
  { DataProperty.scalar (some { serializedName := .ofText shown }) (some name) "String"
      (.ofBool true) none with
    isUnmapped := true }

/-- **Custom members.** A name of which nothing was said makes a custom member once something is,
unless a member or the identifier has it. -/
theorem customProperties_configureMember
    (unsaid : (scope.overrides.ofType entity.type).members.lookup name = none) :
    customProperties (scope.under (scope.overrides.configureMember entity.type name
        [.serializedName (.ofText shown)])) entity =
      customProperties scope entity ++
        if some name ∈ entity.memberNames ++ entity.identifierNames then []
        else [DataProperty.custom name shown] := by
  have fresh := Keyed.lookup_eq_none_iff.mp unsaid
  simp only [customProperties, Scope.under, Overrides.ofType_configureMember, ↓reduceIte,
    Keyed.update_of_not_mem fresh, List.filter_append, List.map_append]
  congr 1
  have said : [MemberSetting.serializedName (.ofText shown)].foldl MemberOverride.apply {} =
      { serializedName := .ofText shown } := rfl
  by_cases mapped : some name ∈ entity.memberNames ++ entity.identifierNames
  · simp only [said, mapped, ↓reduceIte]
    rw [List.filter_cons_of_neg (by simp only [List.contains_iff_mem.mpr mapped]; simp),
      List.filter_nil, List.map_nil]
  · simp only [said, mapped, ↓reduceIte]
    rw [List.filter_cons_of_pos (by simpa using mapped), List.filter_nil, List.map_cons,
      List.map_nil]
    rfl

/-- The custom members of an entity have names of which something was said. -/
theorem nameOnServer_ne_of_unsaid
    (unsaid : (scope.overrides.ofType entity.type).members.lookup name = none) :
    ∀ property ∈ customProperties scope entity, property.nameOnServer ≠ some name := by
  have fresh := Keyed.lookup_eq_none_iff.mp unsaid
  intro property among named
  obtain ⟨⟨other, override⟩, inside, rfl⟩ := List.mem_map.mp among
  obtain rfl : other = name := Option.some.inj named
  exact fresh (List.mem_map.mpr ⟨_, (List.mem_filter.mp inside).1, rfl⟩)

theorem customProperties_configureMember_of_ne {type : TypeExpr}
    (apart : entity.key ≠ type.key) (settings : List MemberSetting) :
    customProperties (scope.under (scope.overrides.configureMember type name settings)) entity =
      customProperties scope entity := by
  have sameType :
      (scope.under (scope.overrides.configureMember type name settings)).overrides.ofType
          entity.type =
        scope.overrides.ofType entity.type := by
    rw [Scope.under, Overrides.ofType_configureMember]
    exact if_neg apart
  rw [customProperties, customProperties, sameType]

end Customs

/-! ## What has no mapping -/

theorem names_of_shows {made : List DataProperty} {surrogates : List Surrogate}
    (shows : List.Forall₂ DataProperty.Shows made surrogates) :
    made.map (·.nameOnServer) = surrogates.map (some ·.name) := by
  induction shows with
  | nil => rfl
  | cons first _ ih => rw [List.map_cons, List.map_cons, first.named, ih]

theorem unmappedNames_customProperties (scope : Scope) (entity : Entity) :
    unmappedNames (customProperties scope entity) =
      (customProperties scope entity).map (·.nameOnServer) := by
  rw [unmappedNames_eq, List.filter_eq_self.mpr]
  intro property among
  obtain ⟨_, -, rfl⟩ := List.mem_map.mp among
  rfl

/-- What has no mapping on an entity are its surrogates and its custom members. -/
theorem unmappedNames_perm {scope : Scope} {entity : Entity} {profile : Profile}
    (profiled : scope.profile entity = .ok profile) :
    (unmappedNames profile.properties).Perm
      (profile.surrogates.map (some ·.name) ++
        (customProperties scope entity).map (·.nameOnServer)) := by
  obtain ⟨keys, properties, links, ofKey, ofLinks, resolutions⟩ := profile_fills profiled
  obtain ⟨byKey, keyShown, keyShows⟩ := shows_of_fills ofKey
  obtain ⟨byLinks, linkShown, linkShows⟩ := shows_of_fills ofLinks
  rw [unmapped_dataMembers, List.nil_append] at keyShown
  rw [unmapped_append, keyShown] at linkShown
  have names : unmappedNames profile.properties =
      (keys.flatMap (·.carrier.surrogates)).map (some ·.name) ++
        (customProperties scope entity).map (·.nameOnServer) ++
          (links.flatMap (·.carrier.surrogates)).map (some ·.name) := by
    rw [unmappedNames, linkShown, List.map_append, List.map_append, ← names_of_shows keyShows,
      ← names_of_shows linkShows, ← unmappedNames_customProperties, unmappedNames]
  rw [names, Profile.surrogates, resolutions, List.flatMap_append, List.map_append,
    List.append_assoc, List.append_assoc]
  exact List.perm_append_comm.append_left _

/-! ## Builds -/

section Builds

variable {catalogue : Catalogue} {options : BuildOptions} {edition : Edition} {entity : Entity}
  {name shown : String}

theorem scope_serializing (options : BuildOptions) (type : TypeExpr) (name shown : String) :
    (options.serializing type name shown).scope catalogue =
      (options.scope catalogue).under
        (options.overrides.configureMember type name [.serializedName (.ofText shown)]) := rfl

/-- A mapped member is renamed, and nothing else happens. -/
theorem build_serializing_of_mapped (built : build catalogue options = .ok edition)
    (included : entity ∈ options.participants catalogue)
    (unsaid : (options.overrides.ofType entity.type).members.lookup name = none)
    (visible : shown ≠ "")
    (mapped : some name ∈ entity.memberNames ++ entity.identifierNames) :
    build catalogue (options.serializing entity.type name shown) =
      .ok (Relabelling.edition { key := entity.key, name, shown := .ofText shown } edition) := by
  obtain ⟨draft, published, -, -⟩ := build_published built
  have customs : ∀ other ∈ options.participants catalogue,
      customProperties ((options.scope catalogue).under (options.overrides.configureMember
          entity.type name [.serializedName (.ofText shown)])) other =
        (customProperties (options.scope catalogue) other).map
          (Relabelling.property { key := entity.key, name, shown := .ofText shown } other.key) := by
    intro other among
    by_cases same : other.key = entity.key
    · obtain rfl := List.inj_on_of_nodup_map published.distinctKeys among included same
      have kept : (customProperties (options.scope catalogue) other).map
          (Relabelling.property { key := other.key, name, shown := .ofText shown } other.key) =
            customProperties (options.scope catalogue) other :=
        (List.map_congr_left fun property inside => Relabelling.property_eq_self _
          (nameOnServer_ne_of_unsaid unsaid property inside)).trans (List.map_id _)
      refine (customProperties_configureMember unsaid).trans ?_
      rw [if_pos mapped, List.append_nil, kept]
    · refine (customProperties_configureMember_of_ne same _).trans ?_
      rw [Relabelling.property_of_ne _ same, List.map_id]
  exact (build_relabelled (relabels_configureMember visible)
    (resourceName_configureMember _) customs).trans (by rw [built]; rfl)

theorem length_unmappedNames_relabelled (relabelling : Relabelling) (type : StructuralType) :
    (unmappedNames (relabelling.type type).dataProperties).length =
      (unmappedNames type.dataProperties).length := by
  simp only [unmappedNames_eq, Relabelling.type, List.filter_map, List.length_map]
  rfl

/-- The names without a mapping on the type of a participant are those of its surrogates and of its
custom members. -/
theorem exists_unmappedNames (built : build catalogue options = .ok edition)
    (included : entity ∈ options.participants catalogue) :
    ∃ type, edition.document.type? entity.key = some type ∧
      (unmappedNames type.dataProperties).Perm
        ((SurrogateTable.ofKey edition.surrogates entity.key).map (some ·.name) ++
          (customProperties (options.scope catalogue) entity).map (·.nameOnServer)) := by
  obtain ⟨draft, published, document, surrogates⟩ := build_published built
  refine ⟨_, document ▸ published.type?_of_mem included options.comparisonOptions, ?_⟩
  rw [surrogates, published.ofKey_surrogates included]
  exact unmappedNames_perm (published.profiled entity included)

/-- **Serialized names.** Say what clients see in place of a member of which nothing was said. The
build is as it was, up to the name that clients see, exactly if the member or the identifier is
mapped under its name. -/
theorem build_serializing_iff (built : build catalogue options = .ok edition)
    (included : entity ∈ options.participants catalogue)
    (unsaid : (options.overrides.ofType entity.type).members.lookup name = none)
    (visible : shown ≠ "") :
    build catalogue (options.serializing entity.type name shown) =
        .ok (Relabelling.edition { key := entity.key, name, shown := .ofText shown } edition) ↔
      some name ∈ entity.memberNames ++ entity.identifierNames := by
  refine ⟨fun rebuilt => ?_, build_serializing_of_mapped built included unsaid visible⟩
  by_contra unmapped
  -- Both builds know the same surrogates, but the second has one more custom member.
  obtain ⟨type, shows, names⟩ := exists_unmappedNames built included
  obtain ⟨other, othersShow, others⟩ := exists_unmappedNames rebuilt included
  have relabelled := Relabelling.type?_document
    { key := entity.key, name, shown := .ofText shown } edition.document entity.key
  rw [shows, Option.map_some] at relabelled
  obtain rfl := Option.some.inj (relabelled.symm.trans othersShow)
  have customs : customProperties ((options.serializing entity.type name shown).scope catalogue)
      entity = customProperties (options.scope catalogue) entity ++
        [DataProperty.custom name shown] := by
    rw [scope_serializing]
    exact (customProperties_configureMember unsaid).trans (by rw [if_neg unmapped])
  have more := others.length_eq
  rw [length_unmappedNames_relabelled, names.length_eq, customs] at more
  simp [Relabelling.edition] at more

end Builds

/-- The association of an order with its customer may have another name for clients. -/
theorem build_serializing_customer : ∃ edition,
    build Shop.catalogue Sample.options = .ok edition ∧
    (∃ type, edition.document.type? Shop.order.key = some type ∧
      (type.navigationProperty? (some "Customer")).isSome = true) ∧
    build Shop.catalogue (Sample.options.serializing Shop.order.type "Customer" "client") =
      .ok (Relabelling.edition
        { key := Shop.order.key, name := "Customer", shown := .ofText "client" } edition) := by
  obtain ⟨edition, built, shown⟩ := exists_edition_of_view
    (fun edition => (edition.document.type? Shop.order.key).map
      fun type => (type.navigationProperty? (some "Customer")).isSome)
    (by decide +kernel : (build Shop.catalogue Sample.options).toOption.map _ = some (some true))
  have included : Shop.order ∈ Sample.options.participants Shop.catalogue := by
    simp [BuildOptions.participants, Sample.options, Shop.catalogue]
  refine ⟨edition, built, Option.map_eq_some_iff.mp shown, ?_⟩
  exact (build_serializing_iff built included rfl (by decide)).mpr (by decide)

/-- With a name for clients the surrogate of an order for its customer is lost. -/
theorem surrogate_lost_order : ∃ edition other,
    build Shop.catalogue Sample.options = .ok edition ∧
    edition.document.dataNames Shop.order.key = [some "Id", some "CustomerId"] ∧
    (Sample.options.overrides.ofType Shop.order.type).members.lookup "CustomerId" = none ∧
    build Shop.catalogue (Sample.options.serializing Shop.order.type "CustomerId" "customerKey") =
      .ok other ∧
    (SurrogateTable.ofKey edition.surrogates Shop.order.key).map (·.name) = ["CustomerId"] ∧
    (SurrogateTable.ofKey other.surrogates Shop.order.key).map (·.name) = [] ∧
    other ≠ Relabelling.edition
      { key := Shop.order.key, name := "CustomerId", shown := .ofText "customerKey" } edition := by
  obtain ⟨edition, built, view⟩ := exists_edition_of_view
    (fun edition => (edition.document.dataNames Shop.order.key,
      (SurrogateTable.ofKey edition.surrogates Shop.order.key).map (·.name)))
    (by decide +kernel : (build Shop.catalogue Sample.options).toOption.map _ =
      some ([some "Id", some "CustomerId"], ["CustomerId"]))
  obtain ⟨other, rebuilt, without⟩ := exists_edition_of_view
    (fun edition => (SurrogateTable.ofKey edition.surrogates Shop.order.key).map (·.name))
    (by decide +kernel : (build Shop.catalogue
      (Sample.options.serializing Shop.order.type "CustomerId" "customerKey")).toOption.map _ =
        some [])
  obtain ⟨names, kept⟩ := Prod.mk.inj view
  refine ⟨edition, other, built, names, rfl, rebuilt, kept, without, ?_⟩
  rintro rfl
  exact absurd (kept.symm.trans without) (by decide)

end EntityAtlas
