import Mathlib.Data.Rat.Defs
import StormPiper.Facilities.Features

/-!
# The default attributes of a facility

`set_default_tmnt_attributes` gives each facility of the city a model from what its texts say.  The
function assigns to the rows of one mask after the other, so the last mask that holds counts.  The
models are those of the project's `config.yml`, which names a validator for each of them; what a
facility retains depends on the validator.

* `facilityTypeContext` : the models and their validators.
* `facilityTypeMasks` : the masks and what is assigned to their rows, in the order of the source.
* `setDefaultTmntAttributes` : each facility with its default attributes.
* `setDefaultTmntAttributes_eq` : no facility is lost or doubled by the join with the models.
* `simple_defaultsOf` : the attributes fit the simple model that the facility is given.
-/

namespace StormPiper

open StormPiper.Frame

/-! ### The models -/

/-- `context["api_recognize"]["treatment_facility"]["facility_type"]` : the validator of each
type. -/
def facilityTypeContext : List (String × String) :=
  [("bioretention_hrbf_media_with_no_infiltration", "TmntFacility"),
   ("bioretention_hrbf_media_with_no_infiltration_simple", "SimpleTmntFacility"),
   ("bioretention_hrbf_media_with_partial_infiltration", "BioInfFacility"),
   ("bioretention_hrbf_media_with_partial_infiltration_simple", "SimpleFacility"),
   ("bioretention_with_full_infiltration", "RetentionFacility"),
   ("bioretention_with_full_infiltration_simple", "SimpleRetFacility"),
   ("bioretention_with_no_infiltration", "TmntFacility"),
   ("bioretention_with_no_infiltration_simple", "SimpleTmntFacility"),
   ("bioretention_with_partial_infiltration", "BioInfFacility"),
   ("bioretention_with_partial_infiltration_simple", "SimpleFacility"),
   ("cartridge_media_filter", "TmntFacility"),
   ("cartridge_media_filter_simple", "SimpleTmntFacility"),
   ("detention_pond", "RetAndTmntFacility"),
   ("detention_pond_simple", "SimpleFacility"),
   ("dispersion_area", "RetentionFacility"),
   ("dispersion_area_simple", "SimpleRetFacility"),
   ("dry_extended_detention", "RetAndTmntFacility"),
   ("dry_extended_detention_simple", "SimpleFacility"),
   ("drywell", "DryWellFacilityFlowOrVolume"),
   ("drywell_simple", "SimpleRetFacility"),
   ("flow_duration_control_tank", "RetAndTmntFacility"),
   ("flow_duration_control_tank_simple", "SimpleFacility"),
   ("hydrodynamic_separator", "FlowFacility"),
   ("hydrodynamic_separator_simple", "SimpleTmntFacility"),
   ("infiltration", "RetentionFacility"),
   ("infiltration_pond", "RetentionFacility"),
   ("infiltration_pond_simple", "SimpleRetFacility"),
   ("infiltration_simple", "SimpleRetFacility"),
   ("media_filter", "TmntFacility"),
   ("media_filter_simple", "SimpleTmntFacility"),
   ("no_treatment", "NTFacility"),
   ("oil_water_separator", "FlowFacility"),
   ("oil_water_separator_simple", "SimpleTmntFacility"),
   ("pervious_pavement_with_full_infiltration", "RetentionFacility"),
   ("pervious_pavement_with_full_infiltration_simple", "SimpleRetFacility"),
   ("pervious_pavement_with_partial_infiltration", "RetAndTmntFacility"),
   ("pervious_pavement_with_partial_infiltration_simple", "SimpleFacility"),
   ("sand_filter", "TmntFacility"),
   ("sand_filter_simple", "SimpleTmntFacility"),
   ("vault", "FlowFacility"),
   ("vault_simple", "SimpleTmntFacility"),
   ("vegetated_box", "FlowFacility"),
   ("vegetated_box_hrbf", "FlowFacility"),
   ("vegetated_box_hrbf_simple", "SimpleTmntFacility"),
   ("vegetated_box_simple", "SimpleTmntFacility"),
   ("vegetated_swale", "FlowAndRetFacility"),
   ("vegetated_swale_simple", "SimpleFacility"),
   ("wet_pond", "PermPoolFacility"),
   ("wet_pond_simple", "SimpleTmntFacility"),
   ("wet_vault", "RetAndTmntFacility"),
   ("wet_vault_simple", "SimpleFacility"),
   ("wetland_pond", "PermPoolFacility"),
   ("wetland_pond_simple", "SimpleTmntFacility")]

/-! ### The masks -/

section Masks

variable {G : Type}

/-- `df["facilitytype"] == name`. -/
def isType (name : String) (r : TMNTFacilityRow G) : Bool := r.facilitytype = some name

/-- `df["infiltrated"].str.lower() == text`. -/
def infiltrates (text : String) (r : TMNTFacilityRow G) : Bool :=
  r.infiltrated.map lowerText = some text

/-- `df["facilitydetail"].str.lower().isin(texts)`. -/
def detailIsin (texts : List String) (r : TMNTFacilityRow G) : Bool :=
  r.facilitydetail.any fun s => lowerText s ∈ texts

/-- `df["facilitydetail"].str.lower().str.strip().isin(texts)`. -/
def detailStripIsin (texts : List String) (r : TMNTFacilityRow G) : Bool :=
  r.facilitydetail.any fun s => strip (lowerText s) ∈ texts

/-- The masks, each with what `df.loc[q, "facility_type"]` is set to.  A comparison with a missing
text is false, and so its negation is true. -/
def facilityTypeMasks : List ((TMNTFacilityRow G → Bool) × String) :=
  [(isType "Bioretention", "bioretention_with_no_infiltration"),
   (fun r => isType "Bioretention" r && infiltrates "partial" r,
    "bioretention_with_partial_infiltration"),
   (fun r => isType "Bioretention" r && infiltrates "full" r,
    "bioretention_with_full_infiltration"),
   (isType "Media Filter", "media_filter"),
   (fun r => isType "Media Filter" r &&
      detailIsin ["bayfilter", "flogard perk filter", "stormfilter"] r, "cartridge_media_filter"),
   (fun r => isType "Tank" r && r.flowcontroltype.isNone, "dry_extended_detention"),
   (fun r => isType "Tank" r && !r.flowcontroltype.isNone, "flow_duration_control_tank"),
   (isType "Pervious Pavement", "pervious_pavement_with_partial_infiltration"),
   (fun r => isType "Pervious Pavement" r && infiltrates "full" r,
    "pervious_pavement_with_full_infiltration"),
   (fun r => isType "Pervious Pavement" r && infiltrates "full" r,
    "pervious_pavement_with_full_infiltration"),
   (isType "Pond", "wet_pond"),
   (fun r => isType "Pond" r && (infiltrates "full" r || detailIsin ["infiltration"] r),
    "infiltration_pond"),
   (fun r => isType "Pond" r && !infiltrates "full" r && detailIsin ["combined", "detention"] r,
    "detention_pond"),
   (fun r => isType "Pond" r && r.facilitydetail.any fun s => isIn "wetland" (lowerText s),
    "wetland_pond"),
   (isType "Vault", "wet_vault"),
   (fun r => isType "Vault" r && detailStripIsin ["null", "", "detention", "conveyance"] r,
    "dry_extended_detention"),
   (fun r => isType "Vault" r && detailStripIsin ["silva cell"] r,
    "bioretention_with_full_infiltration"),
   (isType "Vegetated Box", "vegetated_box"),
   (fun r => isType "Vegetated Box" r && detailIsin ["mws", "filterra"] r, "vegetated_box_hrbf"),
   (isType "Oil Water Separator", "oil_water_separator"),
   (isType "Swirl Separator", "hydrodynamic_separator"),
   (isType "Swale", "vegetated_swale"),
   (isType "Sand Filter", "sand_filter"),
   (isType "Trench", "infiltration")]

/-- The column `facility_type` after all assignments. -/
def maskedFacilityType (r : TMNTFacilityRow G) : String :=
  facilityTypeMasks.foldl (fun ft mask => if mask.1 r then mask.2 else ft) "no_treatment"

end Masks

/-! ### The attributes -/

/-- The models of facilities that retain all runoff. -/
def retainsFull : List String := ["RetentionFacility"]

/-- The models of facilities that retain some of it. -/
def retainsPartial : List String := ["BioInfFacility", "RetAndTmntFacility", "FlowAndRetFacility"]

/-- What is set by default. -/
structure DefaultAttrs where
  facilityType : String
  capturedPct : ℚ
  retainedPct : ℚ
  deriving Repr, DecidableEq

/-- The attributes from the type and from its validator, if the context has one. -/
def defaultAttrs (facilityType : String) (validator : Option String) : DefaultAttrs where
  facilityType := if facilityType ≠ "no_treatment" then facilityType ++ "_simple" else facilityType
  capturedPct := 91
  retainedPct :=
    if validator.any (· ∈ retainsPartial) then 20
    else if validator.any (· ∈ retainsFull) then 91
    else 0

/-- `set_default_tmnt_attributes`: each facility with its attributes. -/
def setDefaultTmntAttributes {G : Type} (rows : List (TMNTFacilityRow G)) :
    List (TMNTFacilityRow G × DefaultAttrs) :=
  (mergeLeft maskedFacilityType Prod.fst rows facilityTypeContext).map fun x =>
    (x.1, defaultAttrs (maskedFacilityType x.1) (x.2.map Prod.snd))

/-- What the simple models retain of what they capture. -/
def simpleRetained (capturedPct : ℚ) : List (String × ℚ) :=
  [("SimpleRetFacility", capturedPct), ("SimpleFacility", 20), ("SimpleTmntFacility", 0),
   ("NTFacility", 0)]

/-- The type has a simple model, and the facility retains what the model stands for: all that it
captures, a part of it or nothing. -/
def DefaultAttrs.Simple (attrs : DefaultAttrs) : Prop :=
  ∃ model ∈ simpleRetained attrs.capturedPct,
    (attrs.facilityType, model.1) ∈ facilityTypeContext ∧ attrs.retainedPct = model.2

instance (attrs : DefaultAttrs) : Decidable attrs.Simple :=
  inferInstanceAs (Decidable (∃ model ∈ simpleRetained attrs.capturedPct,
    (attrs.facilityType, model.1) ∈ facilityTypeContext ∧ attrs.retainedPct = model.2))

/-- The validator of a type. -/
def validatorOf (facilityType : String) : Option String :=
  (facilityTypeContext.find? fun b => b.1 = facilityType).map Prod.snd

/-- The default attributes of a facility. -/
def defaultsOf {G : Type} (r : TMNTFacilityRow G) : DefaultAttrs :=
  defaultAttrs (maskedFacilityType r) (validatorOf (maskedFacilityType r))

section Default

variable {G : Type}

/-- What holds of the start and of everything that is assigned holds in the end. -/
theorem foldl_masks {A B : Type} {P : B → Prop} {masks : List ((A → Bool) × B)}
    (h : ∀ mask ∈ masks, P mask.2) {b : B} (hb : P b) (r : A) :
    P (masks.foldl (fun ft mask => if mask.1 r then mask.2 else ft) b) := by
  induction masks generalizing b with
  | nil => exact hb
  | cons mask masks ih =>
    rw [List.foldl_cons]
    refine ih (fun m hm => h m (List.mem_cons_of_mem _ hm)) ?_
    split_ifs
    · exact h mask List.mem_cons_self
    · exact hb

theorem setDefaultTmntAttributes_eq (rows : List (TMNTFacilityRow G)) :
    setDefaultTmntAttributes rows = rows.map fun r => (r, defaultsOf r) := by
  have hnd : (facilityTypeContext.map Prod.fst).Nodup := by decide +kernel
  rw [setDefaultTmntAttributes, mergeLeft_eq_map hnd, List.map_map]
  rfl

/-- Whatever its texts say, the attributes of a facility fit its simple model. -/
theorem simple_defaultsOf (r : TMNTFacilityRow G) : (defaultsOf r).Simple := by
  have hassigned : ∀ ft ∈ (facilityTypeMasks (G := Unit)).map Prod.snd,
      (defaultAttrs ft (validatorOf ft)).Simple := by decide +kernel
  have hmasks : ∀ mask ∈ facilityTypeMasks (G := G),
      (defaultAttrs mask.2 (validatorOf mask.2)).Simple :=
    fun mask hmask => hassigned mask.2 (List.mem_map_of_mem (f := Prod.snd) hmask)
  exact foldl_masks (P := fun ft => (defaultAttrs ft (validatorOf ft)).Simple) hmasks
    (by decide +kernel) r

end Default

end StormPiper
