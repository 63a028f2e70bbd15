import ModelStore.Mapping.Conversion

/-!
Writing through a mapping. An instance is written by the most specific mapping of its class, as a
row with the discriminator values of that mapping; values that the driver generates are written back
to the instance.
-/

namespace ModelStore

namespace Layout

/-- The mapping of exactly the class of an instance, or `m` itself if the class derives from its own. -/
def mappingFor (l : Layout) (m : Mapping) (x : Entity) : Except Error Mapping :=
  match (l.subtree m).find? fun c => c.model.name == x.model.name with
  | some c => .ok c
  | none =>
    if x.model.isA m.model.name then .ok m
    else .error (.invalid "instance" ("Expected a " ++ m.model.name ++ ", got " ++ x.model.name))

end Layout

namespace Mapping

/-- The attributes as columns, then the discriminator values; generated values may be left out. -/
def columnsOf (m : Mapping) (x : Entity) (skipUnset : Bool) : Row :=
  let skipped (f : MappingField) : Bool :=
    skipUnset && f.sequence.isPresent && (x.get f.ref).isNone
  let written := m.allFields.filter (!skipped ·)
  let own := written.foldl (fun (row : Row) f => row.put f.name (x.get f.ref)) []
  m.values.foldl (fun (row : Row) (k, v) => row.put k (.str v)) own

/-- The row that an instance is stored as. -/
def rowOf (m : Mapping) (l : Layout) (collection : String) (x : Entity) (skipUnset : Bool) :
    Except Error Row :=
  l.convertRow m.schema .toStore collection (m.columnsOf x skipUnset)

def keyNames (m : Mapping) : List String := (m.allFields.filter (·.primaryKey)).map (·.name)

/-- The values of a row by which its document is found. -/
def keyOf (m : Mapping) (row : Row) : Except Error Row :=
  if m.keyNames.isEmpty then .error (.invalid m.name "Mapping has no primary key field")
  else .ok (m.keyNames.foldl (fun (key : Row) k => key.put k (row.column k)) [])

/-- The columns that are no part of the key. -/
def changes (row key : Row) : Row := row.filter fun e => !key.has e.1

/-- Assigns the stored values that differ; a value that is refused ends it. -/
def refresh (stored : Row) : List MappingField → Entity → Entity × Except Error Unit
  | [], x => (x, .ok ())
  | f :: fs, x =>
    match stored.get? f.name with
    | none => refresh stored fs x
    | some v =>
      if x.get f.ref == v then refresh stored fs x
      else
        match x.assign f.ref v with
        | .ok x => refresh stored fs x
        | .error e => (x, .error e)

end Mapping

namespace Row

def toEntries (row : Row) : List (Value × Value) := row.map fun (k, v) => (.str k, v)

/-- The row of the entries that are named by text. -/
def ofEntries (es : List (Value × Value)) : Row :=
  es.filterMap fun (k, v) => k.text?.map fun name => (name, v)

end Row

end ModelStore
