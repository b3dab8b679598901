import MacDispatch.Dispatch.Layout
import MacDispatch.Rehearsal.Replay
import MacDispatch.Report.Output

/-! # Listings

Layouts and replays as lists. -/

namespace MacDispatch

namespace ReplayRow

/-- The verdict of a row in words; a broadcast has a dash. -/
def verdictText (row : ReplayRow) : String :=
  match row.verdict? with
  | some true => "true"
  | some false => "false"
  | none => "-"

/-- The features invoked in a row, in one cell. -/
def invokedText (row : ReplayRow) : String := joined (row.invoked.map Feature.name)

def json (row : ReplayRow) : Json :=
  .object [("step", .nat row.step), ("channel", .string row.channel.name),
    ("verdict", .string row.verdictText), ("invoked", .string row.invokedText)]

def table (rows : List ReplayRow) : Table where
  headings := ["#", "Channel", "Verdict", "Invoked"]
  rows := rows.map fun row =>
    [toString row.step, row.channel.name, row.verdictText, row.invokedText]

def list (format : OutputFormat) (rows : List ReplayRow) : String :=
  Output.list format (table rows) (.array (rows.map json))

end ReplayRow

namespace ChannelLayout

def table (layouts : List ChannelLayout) : Table where
  headings := ["Channel", "Policy", "On false", "Candidates"]
  rows := layouts.map fun layout =>
    [layout.channel.name, layout.policy.name, (layout.meaning?.map Meaning.name).getD "-",
      joined (layout.candidates.map Feature.name)]

def list (format : OutputFormat) (layouts : List ChannelLayout) : String :=
  Output.list format (table layouts) (.array (layouts.map json))

end ChannelLayout

end MacDispatch
