import Strata.Transform.Basic

/-!
# Scripted transforms

A transform given as data: a list of instructions that work on a record one after the other. A
history can so be described without writing functions. An instruction may set, copy or remove
fields, change the key, read the snapshot, emit a record, or give up.
-/

namespace Strata.Script

/-- Where the key of an emitted record comes from. -/
inductive KeySource where
  /-- The record has no key of its own. -/
  | absent
  /-- The key is given. -/
  | fixed (key : Key)
  /-- The key is an integer field of the record at hand, times a factor, plus an offset; the
  arithmetic wraps around. -/
  | computed (field : String) (factor offset : Int64)
  deriving DecidableEq

/-- A record to emit. -/
structure Emission where
  /-- The entity to emit into. -/
  entity : String
  /-- Where the key comes from. -/
  key : KeySource
  /-- The field that repeats the key. -/
  primaryKey? : Option String
  /-- The fields with given values. -/
  fields : List (String × Value)
  /-- The fields copied from the record at hand: the new name and the old. -/
  copies : List (String × String)
  deriving DecidableEq

/-- One instruction of a transform. -/
inductive Instruction where
  /-- Sets a field. -/
  | set (field : String) (value : Value)
  /-- Copies one field to another; an absent field copies null. -/
  | copy (source target : String)
  /-- Removes a field. -/
  | remove (field : String)
  /-- Changes the key. -/
  | setKey (key : Key)
  /-- Adds to an integer field, which counts as zero if it is not an integer; wraps around. -/
  | add (field : String) (amount : Int64)
  /-- Sets `target` to whether `field` is a list of more than `bound` elements. -/
  | longerThan (field : String) (bound : Int) (target : String)
  /-- Sets `target` to a reference to the record of `entity` with the greatest integer in `rank`
  among those whose integer in `own` is the one that the record at hand has in `other`; to null if
  there is none. -/
  | latest (entity own other rank target : String)
  /-- Sets `target` to the integer in `source` of the first record of `entity` whose reference list
  `list` holds the key at hand; else to zero, with a fallback. -/
  | findReferrer (entity list source target : String)
  /-- Sets a field that is absent or null, with a fallback. -/
  | setIfNull (field : String) (value : Value)
  /-- Sets `target` to the number of records of an entity. -/
  | countRecords (entity target : String)
  /-- Emits a record. -/
  | emit (emission : Emission)
  /-- Gives up if a field holds a value. -/
  | failIf (field : String) (value : Value) (reason : String)
  deriving DecidableEq

open Transform (Context Output)

/-- The record with fields set one after the other. -/
def setAll (r : Record) (fields : List (String × Value)) : Record :=
  fields.foldl (fun r (name, value) => r.set name value) r

/-- A record from its parts. With a primary key and a key the field repeats the key; without a key
the record is one that awaits its row number. -/
def makeRecord (key? : Option Key) (primaryKey? : Option String) (fields : List (String × Value)) :
    Record :=
  let start :=
    match key?, primaryKey? with
    | some key, some name => Record.keyed name key
    | some key, none => .ofKey key
    | none, _ => .keyless
  setAll start fields

/-- The integer of a field, zero if there is none. -/
def intOrZero (r : Record) (field : String) : Int64 := (r.int? field).getD 0

/-- The key that a source gives for the record at hand. -/
def KeySource.key? (r : Record) : KeySource → Option Key
  | absent => none
  | fixed key => some key
  | computed field factor offset => some (.int (intOrZero r field * factor + offset))

/-- The value of a field, null if it is absent. -/
def valueOrNull (r : Record) (field : String) : Value := (r.get? field).getD .null

/-- The record that an emission stands for. -/
def Emission.record (e : Emission) (r : Record) : Record :=
  setAll (makeRecord (e.key.key? r) e.primaryKey? e.fields)
    (e.copies.map fun (target, source) => (target, valueOrNull r source))

/-- The effect of an instruction on what has been worked out so far. -/
def Instruction.run (cx : Context) (o : Output) : Instruction → Except MigrationError Output
  | set field value => .ok (o.update (·.set field value))
  | copy source target => .ok (o.update (·.set target (valueOrNull o.record source)))
  | remove field => .ok (o.update (·.remove field))
  | setKey key => .ok (o.update (·.withKey key))
  | add field amount => .ok (o.update (·.set field (.int (intOrZero o.record field + amount))))
  | longerThan field bound target =>
    let length := ((o.record.get? field).bind Value.length?).getD 0
    .ok (o.update (·.set target (.bool (decide (bound < length)))))
  | latest entity own other rank target =>
    let found := cx.snapshot.max? entity
      (fun x => x.int? own == o.record.int? other) (fun x => x.int? rank)
    .ok (o.update (·.set target (.ofRef? (found.map (·.key)))))
  | findReferrer entity list source target =>
    let found := cx.snapshot.find? entity fun x => (x.refs list).contains o.record.key
    match found.bind (·.int? source) with
    | some i => .ok (o.update (·.set target (.int i)))
    | none => .ok (o.update (·.set target (.int 0))).fallback
  | setIfNull field value =>
    if (valueOrNull o.record field).isNull then .ok (o.update (·.set field value)).fallback
    else .ok o
  | countRecords entity target =>
    .ok (o.update (·.set target (.int (Int64.ofNat (cx.snapshot.count entity)))))
  | emit emission => .ok (o.emit emission.entity (emission.record o.record))
  | failIf field value reason =>
    if o.record.get? field = some value then .error (.transform cx.entity reason) else .ok o

/-- The transform that carries out instructions one after the other. -/
def transform (instructions : List Instruction) : Transform := fun r cx =>
  instructions.foldlM (fun o instruction => instruction.run cx o) (.ofRecord r)

end Strata.Script
