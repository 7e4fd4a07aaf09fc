import Duplex.Json.Reader
import Duplex.Settings.Environment
import Duplex.Settings.Merge
import Duplex.Text.Utf8

-- Settings from their layers: the base, the file over it, the environment over both.

namespace Duplex.Settings

-- The values of a file laid over the base.
def overlay (base : Settings) (file : Json) : Except Error Settings :=
  match ofJson? (base.toJson.merge file) with
  | some settings => .ok settings
  | none => .error .json

-- The value in a settings file.
def readFile (bytes : Bytes) : Except Error Json :=
  match Text.ofUtf8? bytes with
  | none => .error .unreadableFile
  | some text =>
    match (Json.ofText? text).bind Json.value? with
    | some json => .ok json
    | none => .error .json

-- A file that is not there changes nothing.
def overlayFile (base : Settings) : Option Bytes → Except Error Settings
  | none => .ok base
  | some bytes =>
    match readFile bytes with
    | .ok json => overlay base json
    | .error e => .error e

def layer (base : Settings) (file : Option Bytes) (env : Environment) : Except Error Settings :=
  match overlayFile base file with
  | .error e => .error e
  | .ok settings =>
    let settings := settings.override env
    match settings.validate with
    | .ok _ => .ok settings
    | .error e => .error e

end Duplex.Settings
