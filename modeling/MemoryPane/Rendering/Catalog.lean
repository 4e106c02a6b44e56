import MemoryPane.Failure
import MemoryPane.Rendering.Ascii
import MemoryPane.Rendering.Hex

/-!
The catalog lists the available renderings by declaration and makes each of them when it is first
asked for. A rendering made once is shared by all who ask for it later, even if its kind is made in
another way by then; the serial number of an instance tells instances apart.
-/

namespace MemoryPane

structure Declaration where
  id : String
  /-- Names the rendering in titles. -/
  label : String
  kind : String
  columnSize : Nat
  deriving DecidableEq

/-- Makes a rendering as a declaration declares it. -/
abbrev Maker := Declaration → Rendering

/-- A rendering that a catalog made. -/
structure Instance where
  /-- Counts the renderings that the catalog made before. -/
  serial : Nat
  rendering : Rendering

structure Catalog where
  /-- What is declared, in order of registration. -/
  declarations : List Declaration
  /-- How each kind is made; the first entry of a kind counts. -/
  makers : List (String × Maker)
  /-- What was made so far, by id. -/
  instances : List (String × Instance)

namespace Catalog

def makeHex : Maker := fun d => .hex d.id d.label d.columnSize

def makeAscii : Maker := fun d => .ascii d.id d.label d.columnSize

/-- A catalog that knows the standard kinds and declares nothing. -/
def standard : Catalog := ⟨[], [("hex", makeHex), ("ascii", makeAscii)], []⟩

/-- The renderings declared if nobody says otherwise. -/
def standardDeclarations : List Declaration :=
  [⟨"hex", "Hex", "hex", 4⟩, ⟨"ascii", "ASCII", "ascii", 4⟩]

def maker? (catalog : Catalog) (kind : String) : Option Maker := catalog.makers.lookup kind

def declaration? (catalog : Catalog) (id : String) : Option Declaration :=
  catalog.declarations.find? fun d => d.id == id

def instance? (catalog : Catalog) (id : String) : Option Instance := catalog.instances.lookup id

def isMade (catalog : Catalog) (id : String) : Bool := (catalog.instance? id).isSome

/-- Makes renderings of a kind in a new way from now on. -/
def setMaker (catalog : Catalog) (kind : String) (maker : Maker) : Catalog :=
  { catalog with makers := (kind, maker) :: catalog.makers }

/-- Declares a rendering of a kind that can be made, with columns that hold something, under an id
of its own. -/
def declare (catalog : Catalog) (d : Declaration) : Except Failure Catalog :=
  if (catalog.maker? d.kind).isNone then .error (.unknownKind d.kind)
  else if d.columnSize = 0 then .error (.badConfig (.emptyColumn d.id))
  else if (catalog.declaration? d.id).isSome then .error (.badConfig (.duplicateRendering d.id))
  else .ok { catalog with declarations := catalog.declarations ++ [d] }

/-- A catalog with the standard kinds that declares the given renderings. -/
def ofDeclarations (ds : List Declaration) : Except Failure Catalog :=
  ds.foldlM declare standard

/-- The rendering `id`, made now if it was not made before. -/
def obtain (catalog : Catalog) (id : String) : Except Failure (Instance × Catalog) :=
  match catalog.instance? id with
  | some made => .ok (made, catalog)
  | none =>
    match catalog.declaration? id with
    | none => .error (.unknownRendering id)
    | some d =>
      match catalog.maker? d.kind with
      | none => .error (.unknownKind d.kind)
      | some make =>
        let made : Instance := ⟨catalog.instances.length, make d⟩
        .ok (made, { catalog with instances := (id, made) :: catalog.instances })

end Catalog

end MemoryPane
