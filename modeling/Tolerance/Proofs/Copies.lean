import Tolerance.Proofs.Operations

namespace Tolerance

/-!
# Copies of ledgers

In a memory a ledger refers to a map of rules for each of its files, and an
operation changes such a map in place.  A copy gets maps of its own, so that no
map belongs to two ledgers, and what is done to one ledger is not seen in another.
-/

namespace Ledger

variable {Value : Type}

/-! ## Ledgers in a memory -/

/--
Maps of rules, each at the address that is its index, and ledgers, which refer to
a map by its address for each file that they list.
-/
structure Memory (Value : Type) where
  maps : List (OrderedMap Value)
  ledgers : List (OrderedMap Nat)

namespace Memory

/-- The map at an address. -/
def mapAt (memory : Memory Value) (address : Nat) : OrderedMap Value :=
  memory.maps[address]?.getD OrderedMap.empty

/-- The address of the rules of a file in a ledger. -/
def address? (memory : Memory Value) (handle : Nat) (filename : Text) : Option Nat :=
  memory.ledgers[handle]?.bind (·.get? filename)

/-- What a ledger in the memory lists. -/
def ledger? (memory : Memory Value) (handle : Nat) : Option (Ledger Value) :=
  memory.ledgers[handle]?.map fun files => { files := files.mapValues memory.mapAt }

/-- Change the map at an address in place. -/
def write
    (memory : Memory Value)
    (address : Nat)
    (change : OrderedMap Value → OrderedMap Value) :
    Memory Value :=
  { memory with maps := memory.maps.modify address change }

/-- Change to which maps a ledger refers. -/
def adjust
    (memory : Memory Value)
    (handle : Nat)
    (change : OrderedMap Nat → OrderedMap Nat) :
    Memory Value :=
  { memory with ledgers := memory.ledgers.modify handle change }

/-- Let a file of a ledger refer to a new map with the given rules. -/
def place
    (memory : Memory Value)
    (handle : Nat)
    (filename : Text)
    (rules : OrderedMap Value) :
    Memory Value where
  maps := memory.maps ++ [rules]
  ledgers := memory.ledgers.modify handle (·.insert filename memory.maps.length)

/-- Let the files of a ledger refer to new maps, one file after the other. -/
def placeAll
    (memory : Memory Value)
    (handle : Nat)
    (files : List (Text × OrderedMap Value)) :
    Memory Value :=
  files.foldl (fun memory file => memory.place handle file.1 file.2) memory

/-- Change the rules of a file in place; a file that is not listed gets a new map. -/
def changeRules
    (memory : Memory Value)
    (handle : Nat)
    (filename : Text)
    (change : OrderedMap Value → OrderedMap Value) :
    Memory Value :=
  match memory.address? handle filename with
  | some address => memory.write address change
  | none => memory.place handle filename (change OrderedMap.empty)

/-- Add a ledger that lists nothing. -/
def extend (memory : Memory Value) : Memory Value :=
  { memory with ledgers := memory.ledgers ++ [OrderedMap.empty] }

/-- Add a ledger that lists the same as the given one, in maps of its own. -/
def create (memory : Memory Value) (ledger : Ledger Value) : Memory Value :=
  memory.extend.placeAll memory.ledgers.length ledger.files.entries

/-- Add a copy of a ledger. -/
def copy (memory : Memory Value) (handle : Nat) : Memory Value :=
  match memory.ledger? handle with
  | some ledger => memory.create ledger
  | none => memory

/-- Perform an operation on a ledger in the memory. -/
def perform (memory : Memory Value) (handle : Nat) : Operation Value → Memory Value
  | .set filename rule value =>
      memory.changeRules handle filename (·.insert rule value)
  | .setDefault filename rule value =>
      memory.changeRules handle filename fun rules =>
        match rules.get? rule with
        | some _ => rules
        | none => rules.insert rule value
  | .replaceFile filename rules => memory.place handle filename rules
  | .remove filename rule =>
      match memory.address? handle filename with
      | some address => memory.write address (·.erase rule)
      | none => memory
  | .removeFile filename => memory.adjust handle (·.erase filename)
  | .pruneEmpty =>
      memory.adjust handle (·.filter fun file => !(memory.mapAt file.2).isEmpty)
  -- The sorted copy, with new maps, takes the place of the ledger.
  | .sort =>
      match memory.ledger? handle with
      | some ledger =>
          (memory.adjust handle fun _ => OrderedMap.empty).placeAll
            handle ledger.sorted.files.entries
      | none => memory

/-! ## No map belongs to two files -/

/-- Every file refers to a map that is there, and no other file refers to it. -/
structure Unshared (memory : Memory Value) : Prop where
  inMemory :
    ∀ ⦃handle filename address⦄,
      memory.address? handle filename = some address →
      address < memory.maps.length
  apart :
    ∀ ⦃handle filename other otherFile address⦄,
      memory.address? handle filename = some address →
      memory.address? other otherFile = some address →
      handle = other ∧ filename = otherFile

theorem address?_adjust
    (memory : Memory Value)
    (handle query : Nat)
    (change : OrderedMap Nat → OrderedMap Nat)
    (filename : Text) :
    (memory.adjust handle change).address? query filename =
      memory.ledgers[query]?.bind fun files =>
        (if handle = query then change files else files).get? filename := by
  rw [address?, adjust, List.getElem?_modify]
  cases memory.ledgers[query]? <;> rfl

/-- A placed file refers to the new map, and every other one to the same as before. -/
theorem address?_place
    {memory : Memory Value}
    {handle query : Nat}
    {filename other : Text}
    {rules : OrderedMap Value}
    {address : Nat}
    (refers : (memory.place handle filename rules).address? query other = some address) :
    (handle = query ∧ filename = other ∧ address = memory.maps.length) ∨
      memory.address? query other = some address := by
  have adjusted :
      (memory.adjust handle (·.insert filename memory.maps.length)).address? query other =
        some address :=
    refers
  rw [address?_adjust] at adjusted
  obtain ⟨files, found, refersHere⟩ := Option.bind_eq_some_iff.mp adjusted
  have unchanged :
      files.get? other = some address → memory.address? query other = some address := by
    intro same
    rw [address?, found]
    exact same
  split at refersHere
  · next sameLedger =>
      rw [OrderedMap.get?_insert] at refersHere
      split at refersHere
      · next sameFile =>
          exact Or.inl ⟨sameLedger, sameFile, (Option.some.inj refersHere).symm⟩
      · exact Or.inr (unchanged refersHere)
  · exact Or.inr (unchanged refersHere)

namespace Unshared

variable {memory : Memory Value}

theorem write
    (unshared : memory.Unshared)
    (address : Nat)
    (change : OrderedMap Value → OrderedMap Value) :
    (memory.write address change).Unshared where
  inMemory handle filename address refers := by
    rw [Memory.write, List.length_modify]
    exact unshared.inMemory refers
  apart _ _ _ _ _ first second := unshared.apart first second

/-- Nothing is shared where the same maps are referred to by fewer files. -/
theorem of_fewer
    {after : Memory Value}
    (unshared : memory.Unshared)
    (sameMaps : after.maps = memory.maps)
    (fewer :
      ∀ {handle filename address},
        after.address? handle filename = some address →
        memory.address? handle filename = some address) :
    after.Unshared where
  inMemory _ _ _ refers := sameMaps ▸ unshared.inMemory (fewer refers)
  apart _ _ _ _ _ first second := unshared.apart (fewer first) (fewer second)

/-- A ledger may stop to refer to some maps. -/
theorem adjust
    (unshared : memory.Unshared)
    (handle : Nat)
    {change : OrderedMap Nat → OrderedMap Nat}
    (fewer :
      ∀ files filename address,
        (change files).get? filename = some address →
        files.get? filename = some address) :
    (memory.adjust handle change).Unshared := by
  refine unshared.of_fewer rfl fun {query filename address} refers => ?_
  rw [address?_adjust] at refers
  obtain ⟨files, found, refersHere⟩ := Option.bind_eq_some_iff.mp refers
  rw [address?, found, Option.bind_some]
  split at refersHere
  · exact fewer files filename address refersHere
  · exact refersHere

theorem filter
    (unshared : memory.Unshared)
    (handle : Nat)
    (keep : Text × Nat → Bool) :
    (memory.adjust handle (·.filter keep)).Unshared := by
  refine unshared.adjust handle fun files filename address refers => ?_
  rw [OrderedMap.get?_filter] at refers
  exact (Option.filter_eq_some_iff.mp refers).1

theorem clear
    (unshared : memory.Unshared)
    (handle : Nat) :
    (memory.adjust handle fun _ => OrderedMap.empty).Unshared := by
  refine unshared.adjust handle fun files filename address refers => ?_
  rw [OrderedMap.get?_empty] at refers
  cases refers

/-- A ledger that lists nothing yet refers to no map. -/
theorem extend
    (unshared : memory.Unshared) :
    memory.extend.Unshared := by
  refine unshared.of_fewer rfl fun {handle filename address} refers => ?_
  obtain ⟨files, found, listed⟩ := Option.bind_eq_some_iff.mp refers
  rw [Memory.extend, List.getElem?_append] at found
  split at found
  · exact Option.bind_eq_some_iff.mpr ⟨files, found, listed⟩
  · rw [List.mem_singleton.mp (List.mem_of_getElem? found), OrderedMap.get?_empty] at listed
    cases listed

theorem place
    (unshared : memory.Unshared)
    (handle : Nat)
    (filename : Text)
    (rules : OrderedMap Value) :
    (memory.place handle filename rules).Unshared where
  inMemory query other address refers := by
    rw [Memory.place, List.length_append, List.length_singleton]
    rcases address?_place refers with ⟨_, _, isNew⟩ | refersBefore
    · omega
    · exact Nat.lt_succ_of_lt (unshared.inMemory refersBefore)
  apart query other another anotherFile address first second := by
    rcases address?_place first with ⟨rfl, rfl, isNew⟩ | firstBefore
    · rcases address?_place second with ⟨rfl, rfl, _⟩ | secondBefore
      · exact ⟨rfl, rfl⟩
      · have := unshared.inMemory secondBefore
        omega
    · rcases address?_place second with ⟨_, _, isNew⟩ | secondBefore
      · have := unshared.inMemory firstBefore
        omega
      · exact unshared.apart firstBefore secondBefore

theorem placeAll
    (unshared : memory.Unshared)
    (handle : Nat)
    (files : List (Text × OrderedMap Value)) :
    (memory.placeAll handle files).Unshared := by
  induction files generalizing memory with
  | nil => exact unshared
  | cons file files inductionHypothesis =>
      exact inductionHypothesis (unshared.place handle file.1 file.2)

theorem changeRules
    (unshared : memory.Unshared)
    (handle : Nat)
    (filename : Text)
    (change : OrderedMap Value → OrderedMap Value) :
    (memory.changeRules handle filename change).Unshared := by
  unfold Memory.changeRules
  split
  · exact unshared.write _ change
  · exact unshared.place handle filename _

end Unshared

/-! ## What a ledger lists -/

theorem mapAt_write
    {memory : Memory Value}
    {address : Nat}
    (inMemory : address < memory.maps.length)
    (change : OrderedMap Value → OrderedMap Value)
    (query : Nat) :
    (memory.write address change).mapAt query =
      if address = query then change (memory.mapAt query) else memory.mapAt query := by
  rw [mapAt, write, List.getElem?_modify, mapAt]
  split
  · next same =>
      rw [← same, List.getElem?_eq_getElem inMemory]
      rfl
  · cases memory.maps[query]? <;> rfl

theorem mapAt_place_of_lt
    {memory : Memory Value}
    {query : Nat}
    (inMemory : query < memory.maps.length)
    (handle : Nat)
    (filename : Text)
    (rules : OrderedMap Value) :
    (memory.place handle filename rules).mapAt query = memory.mapAt query := by
  rw [mapAt, place, List.getElem?_append_left inMemory, mapAt]

theorem mapAt_place_self
    (memory : Memory Value)
    (handle : Nat)
    (filename : Text)
    (rules : OrderedMap Value) :
    (memory.place handle filename rules).mapAt memory.maps.length = rules := by
  rw [mapAt, place, List.getElem?_concat_length, Option.getD_some]

theorem address?_of_listed
    {memory : Memory Value}
    {handle address : Nat}
    {files : OrderedMap Nat}
    {filename : Text}
    (found : memory.ledgers[handle]? = some files)
    (listed : files.get? filename = some address) :
    memory.address? handle filename = some address := by
  rw [address?, found, Option.bind_some, listed]

theorem ledger?_of_found
    {memory : Memory Value}
    {handle : Nat}
    {files : OrderedMap Nat}
    (found : memory.ledgers[handle]? = some files) :
    memory.ledger? handle = some { files := files.mapValues memory.mapAt } := by
  rw [ledger?, found, Option.map_some]

/-- The rules of a file are those at its address. -/
theorem rules_of_address?
    {memory : Memory Value}
    {handle address : Nat}
    {filename : Text}
    {ledger : Ledger Value}
    (found : memory.ledger? handle = some ledger)
    (refers : memory.address? handle filename = some address) :
    ledger.files.get? filename = some (memory.mapAt address) := by
  obtain ⟨files, isThere, listed⟩ := Option.bind_eq_some_iff.mp refers
  rw [ledger?_of_found isThere] at found
  rw [← Option.some.inj found, OrderedMap.get?_mapValues, listed, Option.map_some]

theorem not_listed_of_address?
    {memory : Memory Value}
    {handle : Nat}
    {filename : Text}
    {ledger : Ledger Value}
    (found : memory.ledger? handle = some ledger)
    (refersNowhere : memory.address? handle filename = none) :
    ledger.files.get? filename = none := by
  obtain ⟨files, isThere, rfl⟩ := Option.map_eq_some_iff.mp found
  rw [address?, isThere, Option.bind_some] at refersNowhere
  rw [OrderedMap.get?_mapValues, refersNowhere, Option.map_none]

section Seen

variable {memory : Memory Value} (unshared : memory.Unshared)

include unshared

/-- What is written for a file of a ledger is seen there only. -/
theorem ledger?_write
    {handle address : Nat}
    {filename : Text}
    (refers : memory.address? handle filename = some address)
    (change : OrderedMap Value → OrderedMap Value)
    (query : Nat) :
    (memory.write address change).ledger? query =
      if handle = query then
        (memory.ledger? query).map fun ledger =>
          ledger.replaceFile filename (change (ledger.rules filename))
      else
        memory.ledger? query := by
  have inMemory := unshared.inMemory refers
  cases found : memory.ledgers[query]? with
  | none =>
      have foundAfter : (memory.write address change).ledgers[query]? = none := found
      simp [ledger?, found, foundAfter]
  | some files =>
      have foundAfter : (memory.write address change).ledgers[query]? = some files := found
      rw [ledger?_of_found found, ledger?_of_found foundAfter]
      split
      · next same =>
          subst query
          have listed : files.get? filename = some address := by
            rwa [address?, found, Option.bind_some] at refers
          have elsewhere :
              ∀ other otherAddress,
                other ≠ filename →
                files.get? other = some otherAddress →
                (memory.write address change).mapAt otherAddress =
                  memory.mapAt otherAddress := by
            intro other otherAddress different otherListed
            rw [mapAt_write inMemory, if_neg]
            rintro rfl
            exact different
              (unshared.apart (address?_of_listed found otherListed) refers).2
          have rulesBefore :
              Ledger.rules { files := files.mapValues memory.mapAt } filename =
                memory.mapAt address := by
            rw [Ledger.rules, OrderedMap.get?_mapValues, listed]
            rfl
          rw [Option.map_some, rulesBefore, replaceFile,
            OrderedMap.mapValues_eq_insert listed elsewhere, mapAt_write inMemory,
            if_pos rfl]
      · next different =>
          refine congrArg (fun files => some (Ledger.mk files)) ?_
          refine OrderedMap.mapValues_congr fun other otherAddress listed => ?_
          rw [mapAt_write inMemory, if_neg]
          rintro rfl
          exact different (unshared.apart refers (address?_of_listed found listed)).1

/-- A placed file is seen in its ledger only. -/
theorem ledger?_place
    (handle : Nat)
    (filename : Text)
    (rules : OrderedMap Value)
    (query : Nat) :
    (memory.place handle filename rules).ledger? query =
      if handle = query then
        (memory.ledger? query).map (·.replaceFile filename rules)
      else
        memory.ledger? query := by
  cases found : memory.ledgers[query]? with
  | none =>
      simp [ledger?, found, place, List.getElem?_modify]
  | some files =>
      have sameMaps :
          files.mapValues (memory.place handle filename rules).mapAt =
            files.mapValues memory.mapAt :=
        OrderedMap.mapValues_congr fun other address listed =>
          mapAt_place_of_lt (unshared.inMemory (address?_of_listed found listed)) _ _ _
      have foundAfter :
          (memory.place handle filename rules).ledgers[query]? =
            some
              (if handle = query then files.insert filename memory.maps.length
              else files) := by
        rw [place, List.getElem?_modify, found]
        rfl
      rw [ledger?_of_found foundAfter, ledger?_of_found found]
      split
      · rw [OrderedMap.mapValues_insert, sameMaps, mapAt_place_self]
        rfl
      · rw [sameMaps]

theorem ledger?_placeAll
    (handle : Nat)
    (files : List (Text × OrderedMap Value))
    (query : Nat) :
    (memory.placeAll handle files).ledger? query =
      if handle = query then
        (memory.ledger? query).map fun ledger =>
          { files := files.foldl (fun listed file => listed.insert file.1 file.2) ledger.files }
      else
        memory.ledger? query := by
  induction files generalizing memory with
  | nil =>
      rw [placeAll, List.foldl_nil]
      split
      · exact Option.map_id'.symm
      · rfl
  | cons file files inductionHypothesis =>
      rw [placeAll, List.foldl_cons, ← placeAll,
        inductionHypothesis (unshared.place handle file.1 file.2),
        ledger?_place unshared]
      split
      · rw [Option.map_map]
        rfl
      · rfl

/-- The rules of a file are changed in its ledger only. -/
theorem ledger?_changeRules
    (handle : Nat)
    (filename : Text)
    (change : OrderedMap Value → OrderedMap Value)
    (query : Nat) :
    (memory.changeRules handle filename change).ledger? query =
      if handle = query then
        (memory.ledger? query).map fun ledger =>
          ledger.replaceFile filename (change (ledger.rules filename))
      else
        memory.ledger? query := by
  unfold changeRules
  split
  · next address refers =>
      exact ledger?_write unshared refers change query
  · next refersNowhere =>
      rw [ledger?_place unshared]
      split
      · next same =>
          subst query
          refine Option.map_congr fun ledger found => ?_
          have noRules : ledger.rules filename = OrderedMap.empty := by
            rw [Ledger.rules, not_listed_of_address? found refersNowhere]
            rfl
          rw [noRules]
      · rfl

end Seen

theorem ledger?_adjust
    (memory : Memory Value)
    (handle : Nat)
    (change : OrderedMap Nat → OrderedMap Nat)
    (query : Nat) :
    (memory.adjust handle change).ledger? query =
      memory.ledgers[query]?.map fun files =>
        { files := (if handle = query then change files else files).mapValues memory.mapAt } := by
  rw [ledger?, adjust, List.getElem?_modify]
  cases memory.ledgers[query]? <;> rfl

/-- Files are taken off the list in one ledger only. -/
theorem ledger?_adjust_filter
    (memory : Memory Value)
    (handle : Nat)
    (keep : Text × OrderedMap Value → Bool)
    (query : Nat) :
    (memory.adjust handle
        (·.filter fun file => keep (file.1, memory.mapAt file.2))).ledger? query =
      if handle = query then
        (memory.ledger? query).map fun ledger => { files := ledger.files.filter keep }
      else
        memory.ledger? query := by
  rw [ledger?_adjust, ledger?]
  split
  · next same =>
      rw [Option.map_map]
      refine Option.map_congr fun files _ => ?_
      exact congrArg Ledger.mk (files.mapValues_filter keep memory.mapAt)
  · rfl

/-! ## Operations on one ledger of several -/

/-- Giving a rule a value unless it has one changes the rules of its file. -/
theorem setDefault_eq_replaceFile
    (ledger : Ledger Value)
    (filename rule : Text)
    (value : Value) :
    ledger.setDefault filename rule value =
      ledger.replaceFile filename
        (match (ledger.rules filename).get? rule with
        | some _ => ledger.rules filename
        | none => (ledger.rules filename).insert rule value) := by
  cases found : (ledger.rules filename).get? rule with
  | none => exact setDefault_of_eq_none found value
  | some old =>
      obtain ⟨rules, listed, _⟩ := listed_of_get? found
      have rulesHere : ledger.rules filename = rules := by
        rw [Ledger.rules, listed]
        rfl
      rw [setDefault_of_isSome (Option.isSome_iff_exists.mpr ⟨old, found⟩), rulesHere,
        replaceFile, OrderedMap.insert_get? listed]

/-- An operation is seen in the ledger that it is performed on, and in no other. -/
theorem ledger?_perform
    {memory : Memory Value}
    (unshared : memory.Unshared)
    (handle : Nat)
    (operation : Operation Value)
    (query : Nat) :
    (memory.perform handle operation).ledger? query =
      if handle = query then
        (memory.ledger? query).map (·.perform operation)
      else
        memory.ledger? query := by
  cases operation with
  | set filename rule value =>
      exact ledger?_changeRules unshared handle filename (·.insert rule value) query
  | setDefault filename rule value =>
      rw [perform, ledger?_changeRules unshared]
      simp only [Ledger.perform, setDefault_eq_replaceFile]
  | replaceFile filename rules =>
      exact ledger?_place unshared handle filename rules query
  | remove filename rule =>
      rw [perform]
      cases refers : memory.address? handle filename with
      | some address =>
          dsimp only
          rw [ledger?_write unshared refers]
          split
          · next same =>
              subst query
              refine Option.map_congr fun ledger found => ?_
              have listed := rules_of_address? found refers
              rw [Ledger.perform, Ledger.remove, Ledger.rules, listed]
              rfl
          · rfl
      | none =>
          dsimp only
          split
          · next same =>
              subst query
              cases found : memory.ledger? handle with
              | none => rfl
              | some ledger =>
                  rw [Option.map_some, Ledger.perform, Ledger.remove,
                    not_listed_of_address? found refers]
          · rfl
  | removeFile filename =>
      exact ledger?_adjust_filter memory handle (fun file => file.1 ≠ filename) query
  | pruneEmpty =>
      exact ledger?_adjust_filter memory handle (fun file => !file.2.isEmpty) query
  | sort =>
      rw [perform]
      cases found : memory.ledger? handle with
      | none =>
          dsimp only
          split
          · next same =>
              subst query
              rw [found]
              rfl
          · rfl
      | some ledger =>
          dsimp only
          rw [ledger?_placeAll (unshared.clear handle), ledger?_adjust]
          split
          · next same =>
              subst query
              obtain ⟨files, isThere, _⟩ := Option.map_eq_some_iff.mp found
              rw [isThere, found]
              exact congrArg (fun files => some (Ledger.mk files))
                (OrderedMap.ofList_entries ledger.sorted.files)
          · rfl

theorem Unshared.perform
    {memory : Memory Value}
    (unshared : memory.Unshared)
    (handle : Nat)
    (operation : Operation Value) :
    (memory.perform handle operation).Unshared := by
  cases operation with
  | set filename rule value => exact unshared.changeRules handle filename _
  | setDefault filename rule value => exact unshared.changeRules handle filename _
  | replaceFile filename rules => exact unshared.place handle filename rules
  | remove filename rule =>
      rw [Memory.perform]
      split
      · exact unshared.write _ _
      · exact unshared
  | removeFile filename => exact unshared.filter handle _
  | pruneEmpty => exact unshared.filter handle _
  | sort =>
      rw [Memory.perform]
      split
      · exact (unshared.clear handle).placeAll handle _
      · exact unshared

/-! ## Copies -/

theorem ledger?_extend
    (memory : Memory Value)
    (query : Nat) :
    memory.extend.ledger? query =
      if query = memory.ledgers.length then some Ledger.empty else memory.ledger? query := by
  rw [ledger?, extend, OrderedMap.getElem?_concat]
  split
  · rfl
  · rfl

/-- The new ledger lists the same as the given one, and the others stay as they are. -/
theorem ledger?_create
    {memory : Memory Value}
    (unshared : memory.Unshared)
    (ledger : Ledger Value)
    (query : Nat) :
    (memory.create ledger).ledger? query =
      if query = memory.ledgers.length then some ledger else memory.ledger? query := by
  rw [create, ledger?_placeAll unshared.extend, ledger?_extend]
  split
  · next isNew =>
      rw [if_pos isNew.symm, if_pos isNew.symm]
      exact congrArg (fun files => some (Ledger.mk files))
        (OrderedMap.ofList_entries ledger.files)
  · next isOther =>
      rw [if_neg (Ne.symm isOther), if_neg (Ne.symm isOther)]

end Memory

/-! ## Runs -/

/-- What is asked of a memory. -/
inductive Command (Value : Type) where
  | perform (handle : Nat) (operation : Operation Value)
  | copy (handle : Nat)

namespace Memory

/-- A memory of one ledger with the given content. -/
def ofLedger (ledger : Ledger Value) : Memory Value :=
  create { maps := [], ledgers := [] } ledger

/-- Do what is asked. -/
def obey (memory : Memory Value) : Command Value → Memory Value
  | .perform handle operation => memory.perform handle operation
  | .copy handle => memory.copy handle

/-- Do what is asked, one command after the other. -/
def obeyAll (memory : Memory Value) (commands : List (Command Value)) : Memory Value :=
  commands.foldl obey memory

/-- Perform operations on one ledger. -/
def performAll
    (memory : Memory Value)
    (handle : Nat)
    (operations : List (Operation Value)) :
    Memory Value :=
  operations.foldl (·.perform handle) memory

end Memory

namespace Command

/-- Note a command in the histories of all ledgers: a copy takes over the one so far. -/
def note
    (histories : List (List (Operation Value))) :
    Command Value → List (List (Operation Value))
  | .perform handle operation => histories.modify handle (· ++ [operation])
  | .copy handle =>
      match histories[handle]? with
      | some history => histories ++ [history]
      | none => histories

/-- The operations that led from the first ledger to each of the ledgers there are. -/
def histories (commands : List (Command Value)) : List (List (Operation Value)) :=
  commands.foldl note [[]]

end Command

/-- Every ledger of a memory is what its own history makes of the first one. -/
structure Follows
    (initial : Ledger Value)
    (memory : Memory Value)
    (histories : List (List (Operation Value))) :
    Prop where
  unshared : memory.Unshared
  ledgers : ∀ handle, memory.ledger? handle = histories[handle]?.map initial.performAll

theorem performAll_concat
    (ledger : Ledger Value)
    (operations : List (Operation Value))
    (operation : Operation Value) :
    ledger.performAll (operations ++ [operation]) =
      (ledger.performAll operations).perform operation := by
  rw [performAll, List.foldl_append]
  rfl

namespace Follows

variable
  {initial : Ledger Value}
  {memory : Memory Value}
  {histories : List (List (Operation Value))}

theorem length_eq
    (follows : Follows initial memory histories) :
    memory.ledgers.length = histories.length := by
  have sameHandles (handle : Nat) :
      memory.ledgers.length ≤ handle ↔ histories.length ≤ handle := by
    have same := follows.ledgers handle
    rw [← List.getElem?_eq_none_iff, ← List.getElem?_eq_none_iff,
      ← Option.map_eq_none_iff (f := initial.performAll), ← same, Memory.ledger?,
      Option.map_eq_none_iff]
  exact
    Nat.le_antisymm
      ((sameHandles _).mpr (Nat.le_refl _))
      ((sameHandles _).mp (Nat.le_refl _))

theorem ofLedger (initial : Ledger Value) :
    Follows initial (Memory.ofLedger initial) [[]] := by
  have nothing : Memory.Unshared (Memory.mk [] [] : Memory Value) :=
    { inMemory := nofun
      apart := nofun }
  refine ⟨nothing.extend.placeAll _ _, fun handle => ?_⟩
  rw [Memory.ofLedger, Memory.ledger?_create nothing]
  cases handle with
  | zero => rfl
  | succ handle => rfl

/-- What is asked of the memory is noted in the histories. -/
theorem obey
    (follows : Follows initial memory histories)
    (command : Command Value) :
    Follows initial (memory.obey command) (command.note histories) := by
  cases command with
  | perform handle operation =>
      refine ⟨follows.unshared.perform handle operation, fun query => ?_⟩
      rw [Memory.obey, Memory.ledger?_perform follows.unshared, follows.ledgers query,
        Command.note, List.getElem?_modify]
      cases histories[query]? with
      | none => simp
      | some history =>
          split
          · exact congrArg some (initial.performAll_concat history operation).symm
          · rfl
  | copy handle =>
      rw [Memory.obey, Memory.copy, Command.note, follows.ledgers handle]
      cases histories[handle]? with
      | none => exact follows
      | some history =>
          refine ⟨follows.unshared.extend.placeAll _ _, fun query => ?_⟩
          dsimp only [Option.map_some]
          rw [Memory.ledger?_create follows.unshared, follows.length_eq,
            follows.ledgers query, OrderedMap.getElem?_concat]
          split
          · rfl
          · rfl

theorem obeyAll
    (follows : Follows initial memory histories)
    (commands : List (Command Value)) :
    Follows initial (memory.obeyAll commands) (commands.foldl Command.note histories) := by
  induction commands generalizing memory histories with
  | nil => exact follows
  | cons command commands inductionHypothesis =>
      exact inductionHypothesis (follows.obey command)

end Follows

/-- What is done to a ledger with another handle is not seen in this one. -/
theorem Memory.ledger?_performAll
    {memory : Memory Value}
    (unshared : memory.Unshared)
    (handle : Nat)
    (operations : List (Operation Value))
    (query : Nat) :
    (memory.performAll handle operations).ledger? query =
      if handle = query then
        (memory.ledger? query).map (·.performAll operations)
      else
        memory.ledger? query := by
  induction operations generalizing memory with
  | nil =>
      rw [Memory.performAll, List.foldl_nil]
      split
      · exact Option.map_id'.symm
      · rfl
  | cons operation operations inductionHypothesis =>
      rw [Memory.performAll, List.foldl_cons, ← Memory.performAll,
        inductionHypothesis (unshared.perform handle operation),
        Memory.ledger?_perform unshared]
      split
      · rw [Option.map_map]
        rfl
      · rfl

/-- A copy is changed, and the original stays as it was. -/
theorem Memory.ledger?_performAll_copy
    {memory : Memory Value}
    (unshared : memory.Unshared)
    {handle : Nat}
    {original : Ledger Value}
    (found : memory.ledger? handle = some original)
    (operations : List (Operation Value)) :
    ((memory.copy handle).performAll memory.ledgers.length operations).ledger? handle =
        some original ∧
      ((memory.copy handle).performAll memory.ledgers.length operations).ledger?
          memory.ledgers.length =
        some (original.performAll operations) := by
  have copied : memory.copy handle = memory.create original := by
    rw [Memory.copy, found]
  have isOther : memory.ledgers.length ≠ handle := by
    rintro rfl
    simp [Memory.ledger?] at found
  have unsharedCopy : (memory.create original).Unshared :=
    unshared.extend.placeAll _ _
  rw [copied, Memory.ledger?_performAll unsharedCopy,
    Memory.ledger?_performAll unsharedCopy, if_neg isOther, if_pos rfl,
    Memory.ledger?_create unshared, Memory.ledger?_create unshared, if_neg isOther.symm,
    if_pos rfl]
  exact ⟨found, rfl⟩

/--
After any operations a ledger lists what the operations make of a partial
function from files and rules to values, each key once and in order of insertion;
only an operation that concerns a file without rules changes that.  Copies may be
made at any time: each ledger is what the operations on itself, and on what it
was copied from before that, make of the first one.  So a copy can be changed and
the original stays as it was.
-/
theorem ledger_is_ordered_partial_map (initial : Ledger Value) :
    (∀ operations,
        let ledger := initial.performAll operations
        Represents ledger (initial.table.performAll operations)
            (initial.arrangement.performAll operations) ∧
          InsertionOrder ledger ∧
            ∀ filename operation,
              ledger.table filename = (some fun _ => none) →
              ¬operation.Concerns filename →
              (ledger.perform operation).table filename = some fun _ => none) ∧
      ∀ commands : List (Command Value),
        let memory := (Memory.ofLedger initial).obeyAll commands
        memory.Unshared ∧
          (∀ handle,
            memory.ledger? handle =
              (Command.histories commands)[handle]?.map initial.performAll) ∧
            ∀ handle original operations,
              memory.ledger? handle = some original →
              let changed :=
                (memory.copy handle).performAll memory.ledgers.length operations
              changed.ledger? handle = some original ∧
                changed.ledger? memory.ledgers.length =
                  some (original.performAll operations) := by
  refine ⟨fun operations => ?_, fun commands => ?_⟩
  · refine
      ⟨?_, insertionOrder _, fun filename operation noRules elsewhere =>
        table_perform_of_no_rules noRules elsewhere⟩
    rw [← table_performAll, ← arrangement_performAll]
    exact represents _
  · have follows := (Follows.ofLedger initial).obeyAll commands
    refine ⟨follows.unshared, follows.ledgers, fun handle original operations found => ?_⟩
    exact Memory.ledger?_performAll_copy follows.unshared found operations

/-- The only rule of a file is removed: the file stays listed, and the copy has the rule. -/
theorem emptied_file_stays_listed :
    let initial : Ledger Int := empty.set "a" "r" 1
    let emptied := initial.performAll [.remove "a" "r"]
    let memory :=
      (Memory.ofLedger initial).obeyAll [.copy 0, .perform 0 (.remove "a" "r")]
    emptied.table "a" = (some fun _ => none) ∧
      (emptied.perform .sort).table "a" = (some fun _ => none) ∧
        (memory.ledger? 0).map items = some [] ∧
          (memory.ledger? 1).map items = some [(("a" : Text), ("r" : Text), 1)] := by
  intro initial emptied memory
  obtain ⟨performed, obeyed⟩ := ledger_is_ordered_partial_map initial
  obtain ⟨-, -, keepsListed⟩ := performed [.remove "a" "r"]
  obtain ⟨-, ledgers, -⟩ := obeyed [.copy 0, .perform 0 (.remove "a" "r")]
  have noRules : emptied.table "a" = some fun _ => none := rfl
  refine ⟨noRules, keepsListed "a" .sort noRules (fun concerned => concerned), ?_, ?_⟩
  · rw [ledgers 0]
    decide
  · rw [ledgers 1]
    decide

end Ledger

end Tolerance
