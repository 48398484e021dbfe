import Collective.Metadata
import Collective.Toml.Field
import Collective.Toml.Format

/-!
# Metadata files

Metadata are a TOML table.  Settings that are unknown are passed over.
-/

namespace Collective.Metadata

/-- The kind of operation that a value names. -/
def kind? (value : Toml.Value) : Option Kind :=
  value.choice?.bind Kind.ofWord?

/-- The metadata that a document holds. -/
def ofEntries? (entries : Toml.Entries) : Option Metadata := do
  let file ← Toml.optional? entries "file_path" Toml.Value.path? ⟨[]⟩
  let name ← Toml.optional? entries "name" Toml.Value.text? ""
  let kind ← Toml.required? entries "func" kind?
  let numRanks ← Toml.required? entries "num_ranks" Toml.Value.word64?
  let numChannels ← Toml.required? entries "num_channels" Toml.Value.word32?
  let sizeMultiplier ← Toml.required? entries "size_multiplier" Toml.Value.word64?
  let chunksPerLoop ← Toml.required? entries "num_chunks_per_loop" Toml.Value.word64?
  let minBytes ← Toml.optional? entries "min_bytes" Toml.Value.word64? 0
  let maxBytes ← Toml.optional? entries "max_bytes" Toml.Value.word64? 0
  let inPlace ← Toml.required? entries "in_place" Toml.Value.boolean?
  let outOfPlace ← Toml.required? entries "out_of_place" Toml.Value.boolean?
  some {
    file, name, kind, numRanks, numChannels, sizeMultiplier, chunksPerLoop, minBytes,
    maxBytes, inPlace, outOfPlace }

/-- The metadata that a text describes. -/
def ofToml? (format : Toml.Format) (text : String) : Option Metadata :=
  (format.read? text).bind ofEntries?

/-- The settings that describe metadata, if the path of the file is text. -/
def toPairs? (algorithm : Metadata) : Option (List (String × Toml.Plain)) := do
  let file ← algorithm.file.toString?
  some
    [("file_path", .string file),
      ("name", .string algorithm.name),
      ("func", .string algorithm.kind.word),
      ("num_ranks", .integer algorithm.numRanks.toNat),
      ("num_channels", .integer algorithm.numChannels.toNat),
      ("size_multiplier", .integer algorithm.sizeMultiplier.toNat),
      ("num_chunks_per_loop", .integer algorithm.chunksPerLoop.toNat),
      ("min_bytes", .integer algorithm.minBytes.toNat),
      ("max_bytes", .integer algorithm.maxBytes.toNat),
      ("in_place", .boolean algorithm.inPlace),
      ("out_of_place", .boolean algorithm.outOfPlace)]

/-- The text of metadata, if the format can write their integers. -/
def toToml? (algorithm : Metadata) (format : Toml.Format) : Option String := do
  format.write? (← algorithm.toPairs?)

end Collective.Metadata
