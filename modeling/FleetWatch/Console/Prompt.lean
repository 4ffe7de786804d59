import FleetWatch.Cluster
import FleetWatch.Text.Blank

/-! # The prompt for a new cluster

The operator types a name and a URL with blanks between them. A name or URL holds no blank, and
the URL has to be one of HTTP.
-/

namespace FleetWatch

/-- How a URL of a gateway begins. -/
def AddRequest.schemes : List (List Char) := ["http://".toList, "https://".toList]

/-- The request that a typed line asks for. A cluster is enabled from the start. -/
def AddRequest.parse? (line : List Char) : Option AddRequest :=
  match Text.words line with
  | [name, url] =>
    if schemes.any (·.isPrefixOf url) then some ⟨String.ofList name, String.ofList url, true⟩
    else none
  | _ => none

end FleetWatch
