import Introspection.Script.Probe

/-!
# Listings of namespaces

The listing of a loaded namespace gives its header facts, every directory entry (with the
indexes just outside the directory), the member layout and the full document of each local
entity, the failure of the first index past the end, name lookups, and the answers to the
optional queries: GType lookups, symbol lookups, attributes at offsets, raw reads and probes.
-/

namespace Introspection.Script

open Introspection.Typelib Introspection.Repository Introspection.Info Introspection.Info.Info

def entryDoc (e : DirEntry) : Doc :=
  .obj [("index", .nat e.index), ("name", .str e.name), ("namespace", .str e.namespace_),
    ("offset", .nat e.offset), ("type", .str e.type.name), ("local", .bool e.isLocal)]

def spanEntry (key : String) (s : Span) : List (String × Doc) :=
  if s.count == 0 then [] else [(key, .arr [.nat s.offset, .nat s.count, .nat s.stride])]

/-- The member layout of a compound blob, with empty parts omitted. -/
def membersDoc (m : Members) : Doc :=
  .obj (spanEntry "interfaces" m.interfaces
    ++ (if m.fields.isEmpty then [] else [("fields", .arr (m.fields.map .nat))])
    ++ spanEntry "properties" m.properties ++ spanEntry "methods" m.methods
    ++ spanEntry "signals" m.signals ++ spanEntry "vfuncs" m.vfuncs
    ++ spanEntry "constants" m.constants ++ spanEntry "values" m.values
    ++ spanEntry "discriminators" m.discriminators)

/-- An offset or index given in a query; negative ones read as zero. -/
def queryNat (d : Doc) : Nat := (d.int?.getD 0).toNat

def readDoc (t : Typelib) (q : Doc) : Doc :=
  match q.arr? with
  | some [.str kind, off] =>
    let o := queryNat off
    match kind with
    | "u8" => .nat (t.u8 o)
    | "i8" => .int (t.i8 o)
    | "u16" => .nat (t.u16 o)
    | "u32" => .nat (t.u32 o)
    | "i32" => .int (t.i32 o)
    | "u64" => .nat (t.u64 o)
    | "cstring" => .str (t.cstring o)
    | _ => .null
  | _ => .null

def locatedDoc (r : Repository) (i : Info) : Doc :=
  .obj [("qname", .str (qualifiedName r i)), ("kind", .str i.kind.name),
    ("namespace", .str (namespace_ r i))]

def symbolDoc (t : Typelib) (s : String) : Doc :=
  let has := t.hasSymbol s
  let failure := if has then
      Failure.symbolNotFound s (some (.invalidInput .lookup ("no library attached to " ++ t.text)))
    else Failure.symbolNotFound s none
  .obj [("has", .bool has), ("resolve", encodeFailure failure)]

/-- Adds a key to an object once: a key already present keeps its place and value. -/
def addOnce (kvs : List (String × Doc)) (k : String) (v : Doc) : List (String × Doc) :=
  if kvs.any (·.1 == k) then kvs else kvs ++ [(k, v)]

def listingDoc (sid : Nat) (q : Doc) : RepoM Doc := do
  let r ← get
  let t := r.spaceTypelib sid
  let n := t.nLocal
  let entries := (List.range (t.nEntries + 2)).map fun i => Doc.ofOption entryDoc (t.entryAt? i)
  let localEntries := (List.range n).filterMap fun i => t.entryAt? (i + 1)
  let members := localEntries.map fun e => membersDoc (t.members e.offset)
  let mut infos : List Info := []
  let mut infoDocs : List Doc := []
  for i in List.range n do
    match ← Info.nth sid i with
    | .ok info =>
      infos := infos ++ [info]
      infoDocs := infoDocs ++ [← infoDoc info]
    | .error f => infoDocs := infoDocs ++ [encodeFailure f]
  let pastEnd ← match ← Info.nth sid n with
    | .ok info => infoDoc info
    | .error f => pure (encodeFailure f)
  let r ← get
  let t := r.spaceTypelib sid
  let names := localEntries.map (fun e => (e.name, t.entryKey e.index)) ++
    (q.strings "find").map fun nm => (nm, Typelib.Image.byteText nm.toUTF8)
  let find := names.foldl (fun acc (nm, key) =>
    addOnce acc nm (Doc.ofOption (fun (e : DirEntry) => .nat e.index) (t.entryKeyed? key))) []
  let mut out : List (String × Doc) :=
    [("namespace", .str t.namespace_), ("version", .str t.version), ("string", .str t.text),
      ("minor", .nat t.minor), ("c_prefix", .str t.cPrefix),
      ("shared_libraries", (t.sharedLibraries.map Doc.ofStrings).getD .nilList),
      ("dependencies", (t.dependencies.map Doc.ofStrings).getD .nilList), ("size", .nat t.size),
      ("n_entries", .nat t.nEntries), ("n_local", .nat n),
      ("symbols", Doc.ofStrings t.symbolNames), ("entries", .arr entries),
      ("members", listOrNull members), ("infos", listOrNull infoDocs),
      ("info_past_end", pastEnd), ("find", .obj find)]
  if q.has "gtypes" then
    let mut gs : List (String × Doc) := []
    for g in q.strings "gtypes" do
      match ← Info.findByGTypeName sid g with
      | .ok i => gs := addOnce gs g (locatedDoc (← get) i)
      | .error f => gs := addOnce gs g (encodeFailure f)
    out := out ++ [("gtypes", .obj gs)]
  if q.has "symbols" then
    out := out ++ [("symbol_lookup", .obj ((q.strings "symbols").foldl
      (fun acc s => addOnce acc s (symbolDoc t s)) []))]
  if q.has "attributes_at" then
    out := out ++ [("attributes_at", .arr ((q.list "attributes_at").map fun o =>
      let attrs := t.attributes (queryNat o)
      if attrs.isEmpty then .null else .arr (attrs.map fun (k, v) => .arr [.str k, .str v])))]
  if q.has "reads" then
    out := out ++ [("reads", .arr ((q.list "reads").map (readDoc t)))]
  match q.get? "probe" with
  | some p =>
    let attrs := p.strings "attrs"
    let names := p.strings "members"
    let mut probes : List Doc := []
    for (i, k) in infos.zipIdx do
      probes := probes ++ [← probeDoc sid i (infos[k + 1]?) attrs names]
    out := out ++ [("probe", .arr probes)]
  | none => pure ()
  return .obj (out ++ [("live", .int ((← get).space sid).live)])

end Introspection.Script
