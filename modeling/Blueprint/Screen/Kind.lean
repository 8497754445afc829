/-
  The kinds of screens and of dashboard widgets.

  Reading a kind never fails: an unknown word is kept as an
  unrecognized kind, so that it can be reported later.

  Main definitions:
    * `ScreenKind`, `ScreenKind.ofWord`, `ScreenKind.words`
    * `WidgetKind`, `WidgetKind.ofWord`, `WidgetKind.words`
-/

------------------------------------------------------------
-- Screen Kinds
------------------------------------------------------------

namespace Blueprint

/- What a screen is for. -/
inductive ScreenKind where
| form
| list
| detail
| dashboard
| wizard
| api
| unrecognized (raw : String)
deriving DecidableEq, Repr

namespace ScreenKind

/- The words of the known kinds. -/
def words : List String :=
  ["form", "list", "detail", "dashboard", "wizard", "api"]

def ofWord : String → ScreenKind
| "form" => .form
| "list" => .list
| "detail" => .detail
| "dashboard" => .dashboard
| "wizard" => .wizard
| "api" => .api
| other => .unrecognized other

def word : ScreenKind → String
| .form => "form"
| .list => "list"
| .detail => "detail"
| .dashboard => "dashboard"
| .wizard => "wizard"
| .api => "api"
| .unrecognized raw => raw

end ScreenKind

end Blueprint

------------------------------------------------------------
-- Widget Kinds
------------------------------------------------------------

namespace Blueprint

/- What a widget shows. -/
inductive WidgetKind where
| stat
| chart
| table
| list
| count
| metric
| unrecognized (raw : String)
deriving DecidableEq, Repr

namespace WidgetKind

/- The words of the known kinds. -/
def words : List String :=
  ["stat", "chart", "table", "list", "count", "metric"]

def ofWord : String → WidgetKind
| "stat" => .stat
| "chart" => .chart
| "table" => .table
| "list" => .list
| "count" => .count
| "metric" => .metric
| other => .unrecognized other

def word : WidgetKind → String
| .stat => "stat"
| .chart => "chart"
| .table => "table"
| .list => "list"
| .count => "count"
| .metric => "metric"
| .unrecognized raw => raw

end WidgetKind

end Blueprint
