import Courier.Dump.Stable
import Courier.Json.Access
import Courier.Mcp.Rpc

/-!
Answers of the agent protocol, reduced to what a caller compares.
-/

namespace Courier
namespace Mcp

open Json (textPair intPair boolPair textsPair)

def Outcome.dump (method : String) : Outcome → Json
  | .error code m => .object [intPair "rpc_error" code, textPair "message" (Stable.message m)]
  | .result b =>
    let names (list part shown : String) : Json :=
      .object [textsPair shown ((b.listAt list).map (·.textAt part))]
    match method with
    | "initialize" =>
      let info := b.get "serverInfo"
      .object [textsPair "server" [info.textAt "name", info.textAt "version"]]
    | "tools/list" => names "tools" "name" "tools"
    | "resources/list" => names "resources" "uri" "resources"
    | "resources/templates/list" => names "resourceTemplates" "uriTemplate" "templates"
    | "tools/call" =>
      let texts := (b.listAt "content").map fun c => Stable.message (c.textAt "text")
      .object ([boolPair "is_error" (b.boolAt "isError"), textsPair "text" texts] ++
        if (b.get "structuredContent").isNull then []
        else [textPair "structured" (b.get "structuredContent").render])
    | "resources/read" =>
      .object [("contents", .list ((b.listAt "contents").map fun c =>
        .object [textPair "uri" (c.textAt "uri"), textPair "mime" (c.textAt "mimeType"),
          textPair "text" (c.textAt "text")]))]
    | _ => .object []

end Mcp
end Courier
