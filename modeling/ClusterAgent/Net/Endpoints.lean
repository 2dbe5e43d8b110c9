import ClusterAgent.Net.HostPort
namespace ClusterAgent

/-! ## Lists of service endpoints -/

namespace Endpoints

/-- The text after `://`, or the whole text without it. -/
def withoutScheme (url : List Char) : List Char :=
  match Text.splitAtText "://".toList url with
  | some (_, rest) => rest
  | none => url

/-- The text without the slashes at its end. -/
def withoutTrailingSlashes (text : List Char) : List Char :=
  (text.reverse.dropWhile (· == '/')).reverse

/-- The host of one endpoint. -/
def hostOf (url : List Char) : String :=
  (HostPort.split (String.ofList (withoutTrailingSlashes (withoutScheme url)))).host

/-- The hosts of a list of endpoints separated by commas; blanks around an endpoint and
empty items are passed over. -/
def hosts (servers : String) : List String :=
  ((servers.toList.splitOn ',').map Text.trim |>.filter (!·.isEmpty)).map hostOf

end Endpoints
end ClusterAgent
