import MacAccess.Toml.Value

/-!
# Adding to tables

What may be added where while a document is read. A path leads from a table through its entries to
another table; tables missing on the way are created, and marked as implied by a header or by a
dotted key. A table written between braces is closed, and one with a header of its own cannot be
entered by a dotted key. Of an array of tables, a path enters the last.
-/

namespace MacAccess.Toml

/-- Changes a table that a path leads to, and answers what the change answers. `origin` is the
origin of the table the path starts from, and `created` that of tables the path creates. -/
def alongPath {α : Type} (created : Origin) (change : Origin → Entries → Option (α × Entries)) :
    (path : List String) → (origin : Origin) → Entries → Option (α × Entries)
  | [], origin, es => change origin es
  | key :: path, _, es =>
    match es.lookup key with
    | none =>
      (alongPath created change path created []).map fun r =>
        (r.1, es.set key (.table created r.2))
    | some (.table .inline _) => none
    | some (.table origin sub) =>
      if created = .dotted ∧ origin = .header then none
      else (alongPath created change path origin sub).map fun r =>
        (r.1, es.set key (.table origin r.2))
    | some (.tables items) =>
      match items.getLast? with
      | some (.table origin sub) =>
        (alongPath created change path origin sub).map fun r =>
          (r.1, es.set key (.tables (items.dropLast ++ [.table origin r.2])))
      | _ => none
    | some _ => none

/-- Binds the last part of a key, the other parts of which are a path. A dotted key may only end in
a table that dotted keys created, and a plain key never does; no key is bound twice. -/
def bindKey (key : List String) (v : Value) (es : Entries) : Option Entries :=
  match key.getLast? with
  | none => none
  | some last =>
    let path := key.dropLast
    (alongPath .dotted (fun origin es =>
      if (origin == .dotted) == path.isEmpty || es.has last then none
      else some ((), es.set last v)) path .header es).map (·.2)

/-- Takes a table out that a header is about to open. It must be absent or only implied. -/
def takeOut (path : List String) (key : String) (es : Entries) : Option (Entries × Entries) :=
  alongPath .implied (fun _ es =>
    match es.lookup key with
    | none => some ([], es)
    | some (.table .implied sub) => some (sub, es.erase key)
    | some _ => none) path .header es

/-- Puts a table back that a header had opened. -/
def putBack (path : List String) (key : String) (body : Entries) (es : Entries) : Option Entries :=
  (alongPath .implied (fun _ es =>
    some ((), es.set key (.table .header body))) path .header es).map (·.2)

/-- Makes sure that a key is bound to an array of tables, empty if new. -/
def prepareArray (path : List String) (key : String) (es : Entries) : Option Entries :=
  (alongPath .implied (fun _ es =>
    match es.lookup key with
    | none => some ((), es.set key (.tables []))
    | some (.tables _) => some ((), es)
    | some _ => none) path .header es).map (·.2)

/-- Adds a table to the array of tables that a key is bound to. -/
def addToArray (path : List String) (key : String) (body : Entries) (es : Entries) :
    Option Entries :=
  (alongPath .implied (fun _ es =>
    match es.lookup key with
    | some (.tables items) => some ((), es.set key (.tables (items ++ [.table .header body])))
    | _ => none) path .header es).map (·.2)

end MacAccess.Toml
