import RegionGrid.Definition

/-!
# Bundled layouts

The two layouts that come with the program: the classic page with header, navigation, main part,
aside and footer, and a dashboard with widths of its own. They are definitions like any other.
-/

namespace RegionGrid

inductive Bundled where
  | holyGrail
  | dashboard
  deriving DecidableEq, Repr

namespace Bundled

/-- The layouts that come with the program, the default one first. -/
def all : List Bundled := [holyGrail, dashboard]

def name : Bundled → String
  | holyGrail => "holy_grail"
  | dashboard => "dashboard"

def ofName? (s : String) : Option Bundled := all.find? (·.name == s)

private def strings (items : List String) : Value := .list (items.map .string)

private def object (fields : List (String × Value)) : Value :=
  .mapping (fields.map fun (key, v) => (.string key, v))

private def entry (rows : List String) (columns rowSizes : List Value) : Value :=
  object [("template", strings rows), ("columns", .list columns), ("rows", .list rowSizes)]

private def holyGrailDefinition : Value :=
  object
    [("name", .string "holy_grail"),
     ("layouts", object
       [("compact", entry
           ["header", "nav", "main", "aside", "footer"]
           []
           [.int 56, .string "content", .string "3fr", .string "content", .int 48]),
        ("medium", entry
           ["header header", "nav    main", "nav    aside", "footer footer"]
           [.string "200px", .string "1fr"]
           [.int 64, .string "2fr", .string "1fr", .int 48]),
        ("expanded", entry
           ["header header header", "nav    main   main", "nav    aside  aside",
            "footer footer footer"]
           [.string "220px", .string "1fr", .string "1fr"]
           [.int 64, .string "3fr", .string "1fr", .int 48]),
        ("large", entry
           ["header header header", "nav    main   aside", "footer footer footer"]
           [.string "240px", .string "1fr", .string "280px"]
           [.int 72, .string "1fr", .int 56])])]

private def dashboardDefinition : Value :=
  object
    [("name", .string "dashboard"),
     ("breakpoints", object
       [("compact", .int 600), ("medium", .int 900), ("expanded", .int 1400)]),
     ("layouts", object
       [("compact", entry
           ["toolbar", "summary", "chart", "table"]
           []
           [.int 56, .int 120, .string "1fr", .string "1fr"]),
        ("medium", entry
           ["toolbar toolbar", "summary chart", "table   table"]
           [.string "1fr", .string "2fr"]
           [.int 56, .string "1fr", .string "1fr"]),
        ("expanded", entry
           ["sidebar toolbar toolbar", "sidebar summary chart", "sidebar table   table"]
           [.int 220, .string "1fr", .string "2fr"]
           [.int 56, .string "1fr", .string "1fr"]),
        ("large", entry
           ["sidebar toolbar toolbar toolbar", "sidebar summary chart   alerts",
            "sidebar table   table   alerts", "sidebar .       status  status"]
           [.int 240, .string "1fr", .string "2fr", .int 320]
           [.int 56, .string "1fr", .string "1fr", .int 32])])]

def definition : Bundled → Value
  | holyGrail => holyGrailDefinition
  | dashboard => dashboardDefinition

def layout (b : Bundled) : Except DefinitionError (AdaptiveLayout Float) :=
  Definition.layout b.definition (.string b.name)

end Bundled

end RegionGrid
