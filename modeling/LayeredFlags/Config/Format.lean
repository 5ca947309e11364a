import LayeredFlags.Config.Document
import LayeredFlags.Config.Dotenv
import LayeredFlags.Config.Path
import LayeredFlags.Config.Plain
import LayeredFlags.Json.Decoder
import LayeredFlags.Text.Upper
import LayeredFlags.Toml.Decoder
import LayeredFlags.Yaml.Decoder

/-!
# Configuration formats

The formats by name and by file name, and the decoder of each, as it runs on a whole source and as
it runs with a receiver.
-/

namespace LayeredFlags

/-- A format of configuration files. -/
inductive Format where
  | plain
  | json
  | yaml
  | toml
  | dotenv
  deriving DecidableEq, Repr

namespace Format

/-- The name of a format. -/
def name : Format → String
  | .plain => "plain"
  | .json => "json"
  | .yaml => "yaml"
  | .toml => "toml"
  | .dotenv => "env"

/-- The format with a name, in any letter case. -/
def ofName? (s : String) : Option Format :=
  match Text.asciiLower s with
  | "plain" => some .plain
  | "json" => some .json
  | "yaml" | "yml" => some .yaml
  | "toml" => some .toml
  | "env" | "dotenv" => some .dotenv
  | _ => none

/-- The wording for a name that no format has. -/
def unknownName (s : String) : String :=
  "unknown config format: " ++ Text.asciiLower s

/-- The format of files with an extension. -/
def ofExtension (ext : String) : Format :=
  match Text.asciiLower ext with
  | "json" => .json
  | "yaml" | "yml" => .yaml
  | "toml" => .toml
  | "env" => .dotenv
  | _ => .plain

/-- The format of the file at a path: `.env` itself is dotenv, any other name goes by its
extension. -/
def ofPath (path : String) : Format :=
  match Path.fileName? path.toList with
  | none => .plain
  | some file =>
    if file = ".env".toList then .dotenv
    else match Path.extension? file with
      | some ext => ofExtension (String.ofList ext)
      | none => .plain

end Format

/-- What a decoder can be told. -/
structure DecoderSettings where
  /-- Joins the keys of nested maps. -/
  delimiter : String := "."
  /-- Stripped from the keys of a dotenv file. -/
  stem : Option String := none

namespace Format

/-- The decoder of a format. -/
def decoder (f : Format) (settings : DecoderSettings := {}) : ConfigDecoder :=
  match f with
  | .plain => Plain.decode
  | .dotenv => Dotenv.decode settings.stem
  | .json => Json.decode settings.delimiter
  | .toml => Toml.decode settings.delimiter
  | .yaml => Yaml.decode settings.delimiter

/-- The format by lines, unless it describes a document. -/
def lineFormat? (f : Format) (settings : DecoderSettings) : Option LineFormat :=
  match f with
  | .plain => some Plain.lineFormat
  | .dotenv => some (Dotenv.lineFormat settings.stem)
  | .json | .yaml | .toml => none

/-- What decoding a source does with a receiver while the source is read. -/
def stream {σ : Type} (f : Format) (settings : DecoderSettings)
    (receive : String × String → σ → Attempt σ) (s : Source) (t : σ) : Attempt σ :=
  match f with
  | .plain => Plain.lineFormat.stream receive 1 s t
  | .dotenv => (Dotenv.lineFormat settings.stem).stream receive 1 s t
  | .json => Document.stream Json.read settings.delimiter receive s t
  | .toml => Document.stream Toml.read settings.delimiter receive s t
  | .yaml => Document.stream Yaml.read settings.delimiter receive s t

end Format

end LayeredFlags
