import Interning.Proofs.CaseRules
import Interning.Proofs.Exhaustion
import Interning.Proofs.FailedResolution
import Interning.Proofs.SymbolHandles

/-!
# Identifiers of names in another case

An operation that maps the case of an identifier resolves the identifier and interns the image of
its name. Where there is a free sequence number it answers for every identifier that has a name,
and the answer has for a name the one image that the rules of the mapping allow
(`Registry.MapsNames`), which for ASCII names is the one that letters have (`Registry.MapsAscii`).
Only the identifiers without a name are refused.

The operations take identifiers to identifiers, so what holds of a mapping of texts has to be found
again in the table: the image of a name may be new, it may be a setter whose name is new, and the
next operation begins with a resolution. `Registry.mapText_of_lookup` reduces this to what is looked
up. `Registry.Reachable.caseLaws` carries over that uppercasing and lowercasing settle and that
ASCII names are given back by swapping twice, and `Registry.Reachable.capitalize_twice_iff` says for
which names capitalizing settles.
-/

set_option autoImplicit false
set_option relaxedAutoImplicit false

namespace Interning

namespace Table

variable {floor : UInt64} {table : Table} {id : SymbolId} {record : Record}

/-- Whatever a resolution answers is recorded under the identifier afterwards. -/
theorem WellFormed.lookup_of_record (h : table.WellFormed floor)
    (hrecord : (table.record id).1 = .ok record) :
    (table.record id).2.lookup record.text = some id := by
  have hresolves := h.resolves id
  generalize table.record id = outcome at hrecord hresolves ⊢
  cases hresolves with
  | known hget =>
    obtain rfl := Except.ok.inj hrecord
    exact h.lookup_of_get? hget
  | derived _ hid =>
    obtain rfl := Except.ok.inj hrecord
    rw [(sameNames_countDerived _).lookup_eq, lookup_recordSetter, if_pos rfl, hid]
  | _ => simp at hrecord

/-- While there is a sequence number left, a resolution that fails has found no name. -/
theorem WellFormed.record_eq_notFound_of_lt (h : table.WellFormed floor)
    (hlast : table.lastSequence < SymbolId.maxSequence) {fault : Fault}
    (hrecord : (table.record id).1 = .error fault) : fault = .notFound id := by
  have hresolves := h.resolves id
  generalize table.record id = outcome at hrecord hresolves
  cases hresolves with
  | known => simp at hrecord
  | derived => simp at hrecord
  | emptyExhausted _ _ _ _ hfull => exact absurd hlast hfull
  | _ => exact (Except.error.inj hrecord).symm

/-- An interning answers while there is a sequence number left. -/
theorem WellFormed.exists_intern_of_lt (h : table.WellFormed floor)
    (hlast : table.lastSequence < SymbolId.maxSequence) (text : Text) :
    ∃ id after, table.intern text = (.ok id, after) := by
  cases hanswer : (table.intern text).1 with
  | ok id => exact ⟨id, _, Prod.ext hanswer rfl⟩
  | error fault =>
    obtain ⟨-, hfull, -⟩ := h.intern_eq_error_iff.mp ⟨fault, hanswer⟩
    rw [hfull] at hlast
    exact absurd hlast (UInt64.lt_irrefl _)

end Table

namespace Registry

/-- A registry has a number of sequence numbers left. -/
def HasRoom (registry : Registry) (numbers : Nat) : Prop :=
  registry.table.lastSequence.toNat + numbers ≤ SymbolId.maxSequence.toNat

instance (registry : Registry) (numbers : Nat) : Decidable (registry.HasRoom numbers) :=
  inferInstanceAs (Decidable (_ ≤ _))

/-- An operation takes the identifiers of names to those of their images under a mapping of texts,
which has one image for each of them. -/
structure MapsNames (registry : Registry)
    (operation : Registry → SymbolId → Except Fault SymbolId × Registry)
    (maps : Text → Text → Prop) : Prop where
  notFound_iff : ∀ id unknown, (operation registry id).1 = .error (.notFound unknown) ↔
    (registry.resolve id).1 = .error (.notFound unknown)
  /-- Whatever is not refused is mapped. -/
  exists_image : ∀ id, (∀ unknown, (operation registry id).1 ≠ .error (.notFound unknown)) →
    ∃ name image mapped after, (registry.resolve id).1 = .ok name ∧
      operation registry id = (.ok mapped, after) ∧ (after.resolve mapped).1 = .ok image ∧
        ∀ other, maps name other ↔ other = image

/-- An operation takes the identifiers of ASCII names to those of the images that a function of
texts gives. -/
def MapsAscii (registry : Registry)
    (operation : Registry → SymbolId → Except Fault SymbolId × Registry) (image : Text → Text) :
    Prop :=
  ∀ id name, (registry.resolve id).1 = .ok name → (∀ c ∈ name, isAscii c = true) →
    ∃ mapped after, operation registry id = (.ok mapped, after) ∧
      (after.resolve mapped).1 = .ok (image name)

/-- What the operations on letter case keep to: names are mapped character by character, ASCII names
as their letters are, and doing it twice is the same as once or gives back the name, whatever is
done in between. -/
structure CaseLaws (registry : Registry) : Prop where
  mapsNames_upcase : registry.MapsNames Registry.upcase Uppercases
  mapsNames_downcase : registry.MapsNames Registry.downcase Lowercases
  mapsNames_capitalize : registry.MapsNames Registry.capitalize Capitalizes
  mapsNames_swapCase : registry.MapsNames Registry.swapCase SwapsCase
  mapsAscii_upcase : registry.MapsAscii Registry.upcase (·.map Char.toUpper)
  mapsAscii_downcase : registry.MapsAscii Registry.downcase (·.map Char.toLower)
  mapsAscii_capitalize : registry.MapsAscii Registry.capitalize Text.capitalLetter
  mapsAscii_swapCase : registry.MapsAscii Registry.swapCase (·.map Text.swapLetter)
  upcase_upcase : ∀ id name, (registry.resolve id).1 = .ok name →
    ∃ mapped after, registry.upcase id = (.ok mapped, after) ∧
      ∀ operations, ((after.run operations).upcase mapped).1 = .ok mapped
  downcase_downcase : ∀ id name, (registry.resolve id).1 = .ok name →
    ∃ mapped after, registry.downcase id = (.ok mapped, after) ∧
      ∀ operations, ((after.run operations).downcase mapped).1 = .ok mapped
  swapCase_swapCase : ∀ id name, (registry.resolve id).1 = .ok name →
    (∀ c ∈ name, isAscii c = true) →
      ∃ mapped after, registry.swapCase id = (.ok mapped, after) ∧
        ∀ operations, ((after.run operations).swapCase mapped).1 = .ok id

variable {floor : UInt64} {registry after : Registry} {image : Text → Text} {name : Text}
  {id mapped : SymbolId}

theorem HasRoom.lt (h : registry.HasRoom 1) :
    registry.table.lastSequence < SymbolId.maxSequence :=
  UInt64.lt_iff_toNat_lt.mpr h

/-! ### One mapping -/

theorem exists_record_of_resolve (hresolve : (registry.resolve id).1 = .ok name) :
    ∃ record, (registry.table.record id).1 = .ok record ∧ record.text = name := by
  rw [resolve_eq] at hresolve
  cases hrecord : (registry.table.record id).1 with
  | error fault => simp [hrecord, Except.map] at hresolve
  | ok record =>
    rw [hrecord] at hresolve
    exact ⟨record, rfl, Except.ok.inj hresolve⟩

/-- A mapping has answered for a name: the name and its image are recorded, the image under the
answer. -/
structure Maps (floor : UInt64) (image : Text → Text) (registry : Registry) (id : SymbolId)
    (name : Text) (mapped : SymbolId) (after : Registry) : Prop where
  mapText_eq : mapText image registry id = (.ok mapped, after)
  wellFormed : after.table.WellFormed floor
  lookup_name : after.lookup name = some id
  lookup_image : after.lookup (image name) = some mapped

theorem exists_maps (image : Text → Text) (h : registry.table.WellFormed floor)
    (hroom : registry.HasRoom 1) (hresolve : (registry.resolve id).1 = .ok name) :
    ∃ mapped after, Maps floor image registry id name mapped after := by
  obtain ⟨record, hrecord, rfl⟩ := exists_record_of_resolve hresolve
  have hafter := wellFormed_afterRecord h id
  have hlast := (h.toNat_lastSequence_record_le id).2 record hrecord
  obtain ⟨mapped, table, hintern⟩ :=
    hafter.exists_intern_of_lt (hlast ▸ hroom.lt) (image record.text)
  have hgrows := (hafter.interns (image record.text)).grows hafter
  have hlookup := hafter.lookup_of_intern hintern
  rw [hintern] at hgrows
  refine ⟨mapped, { registry.afterRecord id with table := table }, ?_, hgrows.wellFormed, ?_,
    hlookup⟩
  · rw [Registry.mapText_eq, hrecord]
    simp only [intern, onTable, hintern]
  · exact hgrows.extends_table.lookup_eq _ _ (h.lookup_of_record hrecord)

/-- Where a name and its image are recorded, a mapping answers from the table. -/
theorem mapText_of_lookup (h : registry.table.WellFormed floor)
    (hname : registry.lookup name = some id) (himage : registry.lookup (image name) = some mapped) :
    (mapText image registry id).1 = .ok mapped := by
  have hresolve : registry.resolve id = (.ok name, registry) := by
    rw [resolve, h.resolve_of_lookup hname]
    rfl
  rw [mapText, hresolve]
  simp only [intern_of_lookup himage]

theorem Maps.resolve_eq (hmaps : Maps floor image registry id name mapped after) :
    (after.resolve mapped).1 = .ok (image name) := by
  rw [resolve, onTable, hmaps.wellFormed.resolve_of_lookup hmaps.lookup_image]

/-- A mapping refuses the identifiers that have no name, and no others while there is a number. -/
theorem mapsNames_mapText (h : registry.table.WellFormed floor) (hroom : registry.HasRoom 1)
    {maps : Text → Text → Prop}
    (hmaps : ∀ {name other : Text}, maps name other ↔ other = image name) :
    registry.MapsNames (mapText image) maps := by
  have hnotFound (id unknown : SymbolId) :
      (mapText image registry id).1 = .error (.notFound unknown) ↔
        (registry.resolve id).1 = .error (.notFound unknown) := by
    rw [resolve_eq]
    constructor
    · intro hmap
      rw [(record_of_mapText_eq_notFound h hmap).1]
      rfl
    · intro hresolve
      rw [Registry.mapText_eq, eq_error_of_map_eq_error hresolve]
  refine ⟨hnotFound, fun id hmapped ↦ ?_⟩
  obtain ⟨name, hresolve⟩ : ∃ name, (registry.resolve id).1 = .ok name := by
    rw [resolve_eq]
    cases hrecord : (registry.table.record id).1 with
    | ok record => exact ⟨record.text, rfl⟩
    | error fault =>
      obtain rfl := h.record_eq_notFound_of_lt hroom.lt hrecord
      refine absurd ((hnotFound id id).mpr ?_) (hmapped id)
      rw [resolve_eq, hrecord]
      rfl
  obtain ⟨mapped, after, himage⟩ := exists_maps image h hroom hresolve
  exact ⟨name, image name, mapped, after, hresolve, himage.mapText_eq, himage.resolve_eq,
    fun _ ↦ hmaps⟩

/-- A name that has an image is taken to the identifier of the image. -/
theorem MapsNames.exists_of_resolve
    {operation : Registry → SymbolId → Except Fault SymbolId × Registry}
    {maps : Text → Text → Prop} (h : registry.MapsNames operation maps)
    (hresolve : (registry.resolve id).1 = .ok name) (mapping : Text) (hmaps : maps name mapping) :
    ∃ mapped after, operation registry id = (.ok mapped, after) ∧
      (after.resolve mapped).1 = .ok mapping := by
  have hanswered (unknown : SymbolId) :
      (operation registry id).1 ≠ .error (.notFound unknown) := by
    rw [Ne, h.notFound_iff, hresolve]
    simp
  obtain ⟨other, found, mapped, after, hname, hoperation, himage, hunique⟩ :=
    h.exists_image id hanswered
  obtain rfl := Except.ok.inj (hresolve.symm.trans hname)
  rw [(hunique mapping).mp hmaps]
  exact ⟨mapped, after, hoperation, himage⟩

theorem mapsAscii_mapText (h : registry.table.WellFormed floor) (hroom : registry.HasRoom 1)
    {letters : Text → Text}
    (hascii : ∀ {name : Text}, (∀ c ∈ name, isAscii c = true) → image name = letters name) :
    registry.MapsAscii (mapText image) letters := by
  intro id name hresolve hname
  obtain ⟨mapped, after, himage⟩ := exists_maps image h hroom hresolve
  exact ⟨mapped, after, himage.mapText_eq, hascii hname ▸ himage.resolve_eq⟩

/-! ### Two mappings in turn -/

/-- Mapping once more takes the answer to the identifier of the image of the image, if that is
recorded by then. -/
theorem Maps.mapText_run (hmaps : Maps floor image registry id name mapped after)
    {next : SymbolId} (hnext : after.lookup (image (image name)) = some next)
    (operations : List Operation) :
    (mapText image (after.run operations) mapped).1 = .ok next := by
  have hgrows := (steps_run after operations).table.grows hmaps.wellFormed
  exact mapText_of_lookup hgrows.wellFormed
    (hgrows.extends_table.lookup_eq _ _ hmaps.lookup_image)
    (hgrows.extends_table.lookup_eq _ _ hnext)

theorem exists_mapText_of_settled (h : registry.table.WellFormed floor)
    (hroom : registry.HasRoom 1) (hresolve : (registry.resolve id).1 = .ok name)
    (hsettled : image (image name) = image name) :
    ∃ mapped after, mapText image registry id = (.ok mapped, after) ∧
      ∀ operations, (mapText image (after.run operations) mapped).1 = .ok mapped := by
  obtain ⟨mapped, after, hmaps⟩ := exists_maps image h hroom hresolve
  have hagain : after.lookup (image (image name)) = some mapped := by
    rw [hsettled]
    exact hmaps.lookup_image
  exact ⟨mapped, after, hmaps.mapText_eq, hmaps.mapText_run hagain⟩

theorem exists_mapText_of_involutive (h : registry.table.WellFormed floor)
    (hroom : registry.HasRoom 1) (hresolve : (registry.resolve id).1 = .ok name)
    (hback : image (image name) = name) :
    ∃ mapped after, mapText image registry id = (.ok mapped, after) ∧
      ∀ operations, (mapText image (after.run operations) mapped).1 = .ok id := by
  obtain ⟨mapped, after, hmaps⟩ := exists_maps image h hroom hresolve
  have hagain : after.lookup (image (image name)) = some id := by
    rw [hback]
    exact hmaps.lookup_name
  exact ⟨mapped, after, hmaps.mapText_eq, hmaps.mapText_run hagain⟩

/-- While there is a sequence number, names are mapped by all four operations, uppercasing and
lowercasing settle, and ASCII names are given back by swapping their case twice. -/
theorem Reachable.caseLaws (h : registry.Reachable) (hroom : registry.HasRoom 1) :
    registry.CaseLaws := by
  have hinvariant := h.wellFormed
  constructor
  case mapsNames_upcase => exact mapsNames_mapText hinvariant hroom uppercases_iff
  case mapsNames_downcase => exact mapsNames_mapText hinvariant hroom lowercases_iff
  case mapsNames_capitalize => exact mapsNames_mapText hinvariant hroom capitalizes_iff
  case mapsNames_swapCase => exact mapsNames_mapText hinvariant hroom swapsCase_iff
  case mapsAscii_upcase => exact mapsAscii_mapText hinvariant hroom Text.upcase_of_isAscii
  case mapsAscii_downcase => exact mapsAscii_mapText hinvariant hroom Text.downcase_of_isAscii
  case mapsAscii_capitalize => exact mapsAscii_mapText hinvariant hroom Text.capitalize_of_isAscii
  case mapsAscii_swapCase => exact mapsAscii_mapText hinvariant hroom Text.swapCase_of_isAscii
  case upcase_upcase =>
    intro id name hresolve
    exact exists_mapText_of_settled hinvariant hroom hresolve (Text.upcase_upcase name)
  case downcase_downcase =>
    intro id name hresolve
    exact exists_mapText_of_settled hinvariant hroom hresolve (Text.downcase_downcase name)
  case swapCase_swapCase =>
    intro id name hresolve hascii
    exact exists_mapText_of_involutive hinvariant hroom hresolve (Text.swapCase_swapCase hascii)

/-- A setter whose sharp s has two letters for a capital, a name that begins and ends in a sigma, and
an ASCII name with letters of both cases. What is recorded in between makes no difference. -/
theorem default_caseLaws : ∃ start, Registry.create (.default ⟨8⟩) = .ok start ∧
    let registry := start.run
      [.intern "straße=".toList, .intern "hello_World".toList, .intern "ΣΑΣ".toList]
    registry.Reachable ∧ registry.HasRoom 1 ∧
      (∃ mapped after, registry.upcase ⟨8012⟩ = (.ok mapped, after) ∧
        (after.resolve mapped).1 = .ok "STRASSE=".toList ∧
          ((after.run [.intern "strasse".toList]).upcase mapped).1 = .ok mapped) ∧
      (∃ mapped after, registry.downcase ⟨8029⟩ = (.ok mapped, after) ∧
        (after.resolve mapped).1 = .ok "σας".toList ∧
          ((after.run [.intern "strasse".toList]).downcase mapped).1 = .ok mapped) ∧
      (∃ mapped after, registry.capitalize ⟨8016⟩ = (.ok mapped, after) ∧
        (after.resolve mapped).1 = .ok "Hello_world".toList) ∧
      ∃ mapped after, registry.swapCase ⟨8016⟩ = (.ok mapped, after) ∧
        (after.resolve mapped).1 = .ok "HELLO_wORLD".toList ∧
          ((after.run [.intern "strasse".toList]).swapCase mapped).1 = .ok ⟨8016⟩ := by
  have hreachable := (Reachable.create create_default).run
    [.intern "straße=".toList, .intern "hello_World".toList, .intern "ΣΑΣ".toList]
  refine ⟨_, create_default, ?_⟩
  intro registry
  have hroom : registry.HasRoom 1 := by
    decide +kernel
  have hsetter : (registry.resolve ⟨8012⟩).1 = .ok "straße=".toList := by
    decide +kernel
  have hmixed : (registry.resolve ⟨8016⟩).1 = .ok "hello_World".toList := by
    decide +kernel
  have hsigma : (registry.resolve ⟨8029⟩).1 = .ok "ΣΑΣ".toList := by
    decide +kernel
  have hlaws := Reachable.caseLaws hreachable hroom
  refine ⟨hreachable, hroom, ?_, ?_, ?_, ?_⟩
  · obtain ⟨mapped, after, hupcase, hagain⟩ := hlaws.upcase_upcase _ _ hsetter
    obtain ⟨_, _, hother, himage⟩ := hlaws.mapsNames_upcase.exists_of_resolve hsetter
      "STRASSE=".toList (uppercases_iff.mpr (by decide +kernel))
    obtain ⟨⟨⟩, rfl⟩ := Prod.mk.inj (hupcase.symm.trans hother)
    exact ⟨mapped, after, hupcase, himage, hagain _⟩
  · obtain ⟨mapped, after, hdowncase, hagain⟩ := hlaws.downcase_downcase _ _ hsigma
    obtain ⟨_, _, hother, himage⟩ := hlaws.mapsNames_downcase.exists_of_resolve hsigma
      "σας".toList (lowercases_iff.mpr (by decide +kernel))
    obtain ⟨⟨⟩, rfl⟩ := Prod.mk.inj (hdowncase.symm.trans hother)
    exact ⟨mapped, after, hdowncase, himage, hagain _⟩
  · exact hlaws.mapsNames_capitalize.exists_of_resolve hmixed _
      (capitalizes_iff.mpr (by decide +kernel))
  · have hascii : "hello_World".toList.all isAscii = true := by
      decide
    obtain ⟨mapped, after, hswap, hback⟩ :=
      hlaws.swapCase_swapCase _ _ hmixed (List.all_eq_true.mp hascii)
    obtain ⟨_, _, hother, himage⟩ := hlaws.mapsNames_swapCase.exists_of_resolve hmixed
      "HELLO_wORLD".toList (swapsCase_iff.mpr (by decide +kernel))
    obtain ⟨⟨⟩, rfl⟩ := Prod.mk.inj (hswap.symm.trans hother)
    exact ⟨mapped, after, hswap, himage, hback _⟩

/-- Capitalizing twice is the same as once exactly for the names that stay capitalized. -/
theorem Reachable.capitalize_twice_iff (h : registry.Reachable) (hroom : registry.HasRoom 2)
    (hresolve : (registry.resolve id).1 = .ok name) :
    ∃ capital after again last, registry.capitalize id = (.ok capital, after) ∧
      after.capitalize capital = (.ok again, last) ∧
        (again = capital ↔ Text.StaysCapitalized name) := by
  have hinvariant := h.wellFormed
  have hfirst : registry.HasRoom 1 := Nat.le_trans (Nat.le_succ _) hroom
  obtain ⟨capital, after, hcapital⟩ := exists_maps Text.capitalize hinvariant hfirst hresolve
  have hlast := toNat_lastSequence_mapText_le hinvariant Text.capitalize id
  rw [hcapital.mapText_eq] at hlast
  dsimp only at hlast
  have hsecond : after.HasRoom 1 := by
    have htotal : registry.table.lastSequence.toNat + 2 ≤ SymbolId.maxSequence.toNat := hroom
    rw [HasRoom]
    omega
  obtain ⟨again, last, hagain⟩ :=
    exists_maps Text.capitalize hcapital.wellFormed hsecond hcapital.resolve_eq
  refine ⟨capital, after, again, last, hcapital.mapText_eq, hagain.mapText_eq, ?_⟩
  rw [← Text.capitalize_capitalize_iff]
  -- Both identifiers are recorded at the end, so they are the same if their names are.
  constructor
  · rintro rfl
    exact hagain.wellFormed.text_eq_of_lookup hagain.lookup_image hagain.lookup_name
  · intro heq
    have hlookup := hagain.lookup_image
    rw [heq, hagain.lookup_name] at hlookup
    exact (Option.some.inj hlookup).symm

/-- The capital of the first letter is written with a mark of its own, which has no case. -/
theorem default_capitalize_twice : ∃ start capital after,
    Registry.create (.default ⟨8⟩) = .ok start ∧
      (start.run [.intern "ǰΣ".toList]).Reachable ∧
        (start.run [.intern "ǰΣ".toList]).HasRoom 2 ∧
          ((start.run [.intern "ǰΣ".toList]).resolve ⟨8008⟩).1 = .ok "ǰΣ".toList ∧
            (start.run [.intern "ǰΣ".toList]).capitalize ⟨8008⟩ = (.ok capital, after) ∧
              (after.capitalize capital).1 = .ok capital := by
  have hreachable := (Reachable.create create_default).run [.intern "ǰΣ".toList]
  have hroom : ((bootstrap (.default ⟨8⟩)).run [.intern "ǰΣ".toList]).HasRoom 2 := by
    decide +kernel
  have hresolve : (((bootstrap (.default ⟨8⟩)).run [.intern "ǰΣ".toList]).resolve ⟨8008⟩).1 =
      .ok "ǰΣ".toList := by
    decide +kernel
  have hstays : Text.StaysCapitalized "ǰΣ".toList := by
    decide +kernel
  obtain ⟨capital, after, again, last, hcapital, hagain, hiff⟩ :=
    Reachable.capitalize_twice_iff hreachable hroom hresolve
  refine ⟨_, capital, after, create_default, hreachable, hroom, hresolve, hcapital, ?_⟩
  rw [hagain, hiff.mpr hstays]

/-- The capital of a sharp s is two letters, of which the second is made small again. -/
theorem capitalize_again_ne : ∃ start after last, Registry.create (.default ⟨8⟩) = .ok start ∧
    (start.run [.intern ['ß']]).Reachable ∧ (start.run [.intern ['ß']]).HasRoom 2 ∧
      ((start.run [.intern ['ß']]).resolve ⟨8008⟩).1 = .ok ['ß'] ∧
        (start.run [.intern ['ß']]).capitalize ⟨8008⟩ = (.ok ⟨8021⟩, after) ∧
          after.capitalize ⟨8021⟩ = (.ok ⟨8029⟩, last) := by
  have hfirst : (((bootstrap (.default ⟨8⟩)).run [.intern ['ß']]).capitalize ⟨8008⟩).1 =
      .ok ⟨8021⟩ := by
    decide +kernel
  have hsecond : ((((bootstrap (.default ⟨8⟩)).run [.intern ['ß']]).capitalize ⟨8008⟩).2.capitalize
      ⟨8021⟩).1 = .ok ⟨8029⟩ := by
    decide +kernel
  exact ⟨_, _, _, create_default, (Reachable.create create_default).run [.intern ['ß']],
    by decide +kernel, by decide +kernel, Prod.ext hfirst rfl, Prod.ext hsecond rfl⟩

end Registry

end Interning
