/-!
The description of the HTTP interface, and the page that shows it.
-/

namespace Courier.Http

/-- Lines of text, each with a line feed. -/
def lines (ls : List String) : String := String.join (ls.map fun l => l ++ "\n")

/-- The version of the interface. -/
def apiVersion : String := "0.1.0"

/-- The description of the interface. -/
def document : String := lines [
  "openapi: 3.0.3",
  "info:",
  "  title: Weft API",
  "  description: Submit messages to compiled programs and collect their results.",
  "  version: 0.1.0",
  "paths:",
  "  /healthz:",
  "    get:",
  "      operationId: getHealth",
  "      responses:",
  "        \"200\":",
  "          description: Worker pool snapshot.",
  "          content:",
  "            application/json:",
  "              schema:",
  "                $ref: \"#/components/schemas/Health\"",
  "  /info:",
  "    get:",
  "      operationId: getInfo",
  "      responses:",
  "        \"200\":",
  "          description: Build information.",
  "          content:",
  "            application/json:",
  "              schema:",
  "                type: object",
  "                additionalProperties:",
  "                  type: string",
  "  /v1/programs:",
  "    get:",
  "      operationId: listPrograms",
  "      responses:",
  "        \"200\":",
  "          description: Registered program names.",
  "          content:",
  "            application/json:",
  "              schema:",
  "                type: array",
  "                items:",
  "                  type: string",
  "  /v1/programs/\x7bprogram\x7d:",
  "    parameters:",
  "      - $ref: \"#/components/parameters/Program\"",
  "    get:",
  "      operationId: getProgram",
  "      responses:",
  "        \"200\":",
  "          description: Program summary.",
  "          content:",
  "            application/json:",
  "              schema:",
  "                $ref: \"#/components/schemas/Program\"",
  "        \"404\":",
  "          $ref: \"#/components/responses/Error\"",
  "  /v1/programs/\x7bprogram\x7d/graph:",
  "    parameters:",
  "      - $ref: \"#/components/parameters/Program\"",
  "    get:",
  "      operationId: getProgramGraph",
  "      responses:",
  "        \"200\":",
  "          description: Mermaid flowchart of the program graph.",
  "          content:",
  "            text/plain:",
  "              schema:",
  "                type: string",
  "        \"404\":",
  "          $ref: \"#/components/responses/Error\"",
  "  /v1/programs/\x7bprogram\x7d/messages:",
  "    parameters:",
  "      - $ref: \"#/components/parameters/Program\"",
  "    post:",
  "      operationId: sendMessage",
  "      parameters:",
  "        - name: wait",
  "          in: query",
  "          required: false",
  "          schema:",
  "            type: boolean",
  "      requestBody:",
  "        required: true",
  "        content:",
  "          application/json:",
  "            schema:",
  "              $ref: \"#/components/schemas/MessageRequest\"",
  "      responses:",
  "        \"200\":",
  "          description: The request completed within the wait timeout.",
  "          content:",
  "            application/json:",
  "              schema:",
  "                $ref: \"#/components/schemas/Result\"",
  "        \"202\":",
  "          description: The message was accepted.",
  "          content:",
  "            application/json:",
  "              schema:",
  "                $ref: \"#/components/schemas/Accepted\"",
  "        \"400\":",
  "          $ref: \"#/components/responses/Error\"",
  "        \"404\":",
  "          $ref: \"#/components/responses/Error\"",
  "        \"409\":",
  "          $ref: \"#/components/responses/Error\"",
  "        \"422\":",
  "          $ref: \"#/components/responses/Error\"",
  "        \"503\":",
  "          $ref: \"#/components/responses/Error\"",
  "  /v1/results/\x7bid\x7d:",
  "    parameters:",
  "      - $ref: \"#/components/parameters/MessageID\"",
  "    get:",
  "      operationId: getResult",
  "      responses:",
  "        \"200\":",
  "          description: The stored result.",
  "          content:",
  "            application/json:",
  "              schema:",
  "                $ref: \"#/components/schemas/Result\"",
  "        \"404\":",
  "          $ref: \"#/components/responses/Error\"",
  "    delete:",
  "      operationId: deleteResult",
  "      responses:",
  "        \"204\":",
  "          description: Deleted.",
  "  /v1/results/\x7bid\x7d/events:",
  "    parameters:",
  "      - $ref: \"#/components/parameters/MessageID\"",
  "    get:",
  "      operationId: subscribeResult",
  "      responses:",
  "        \"200\":",
  "          description: Server-sent events carrying the result once it is delivered.",
  "          content:",
  "            text/event-stream:",
  "              schema:",
  "                type: string",
  "components:",
  "  parameters:",
  "    Program:",
  "      name: program",
  "      in: path",
  "      required: true",
  "      schema:",
  "        type: string",
  "    MessageID:",
  "      name: id",
  "      in: path",
  "      required: true",
  "      schema:",
  "        type: string",
  "  responses:",
  "    Error:",
  "      description: The request was refused.",
  "      content:",
  "        application/json:",
  "          schema:",
  "            $ref: \"#/components/schemas/Error\"",
  "  schemas:",
  "    MessageRequest:",
  "      type: object",
  "      required: [payload]",
  "      properties:",
  "        id:",
  "          type: string",
  "          maxLength: 128",
  "        headers:",
  "          type: object",
  "          additionalProperties:",
  "            type: string",
  "        payload:",
  "          type: object",
  "    Accepted:",
  "      type: object",
  "      required: [message_id]",
  "      properties:",
  "        message_id:",
  "          type: string",
  "        program:",
  "          type: string",
  "    Result:",
  "      type: object",
  "      required: [message_id, status]",
  "      properties:",
  "        message_id:",
  "          type: string",
  "        program:",
  "          type: string",
  "        status:",
  "          type: string",
  "          enum: [success, failure]",
  "        value: \x7b\x7d",
  "        bindings:",
  "          type: object",
  "        steps:",
  "          type: integer",
  "        failure:",
  "          type: object",
  "          properties:",
  "            kind:",
  "              type: string",
  "            node_id:",
  "              type: integer",
  "            node_kind:",
  "              type: string",
  "            statement:",
  "              type: string",
  "            message:",
  "              type: string",
  "        completed_at:",
  "          type: string",
  "          format: date-time",
  "        duration:",
  "          type: integer",
  "    Program:",
  "      type: object",
  "      properties:",
  "        name:",
  "          type: string",
  "        version:",
  "          type: string",
  "        input:",
  "          type: object",
  "          additionalProperties:",
  "            type: string",
  "        nodes:",
  "          type: integer",
  "        depth:",
  "          type: integer",
  "    Health:",
  "      type: object",
  "      properties:",
  "        status:",
  "          type: string",
  "        pool:",
  "          type: object",
  "          properties:",
  "            state:",
  "              type: string",
  "            workers:",
  "              type: integer",
  "            queue_capacity:",
  "              type: integer",
  "            queued:",
  "              type: integer",
  "            in_flight:",
  "              type: integer",
  "    Error:",
  "      type: object",
  "      required: [error]",
  "      properties:",
  "        error:",
  "          type: string",
  "        reason:",
  "          type: string"]

/-- The page that shows the description. -/
def page : String := lines [
  "",
  "<!DOCTYPE html>",
  "<html lang=\"en\">",
  "<head>",
  "    <meta charset=\"utf-8\" />",
  "    <meta name=\"viewport\" content=\"width=device-width, initial-scale=1\" />",
  "    <title>Weft API Documentation</title>",
  "    <link rel=\"stylesheet\" href=\"https://unpkg.com/swagger-ui-dist@5.11.0/swagger-ui.css\" />",
  "</head>",
  "<body>",
  "<div id=\"swagger-ui\"></div>",
  "<script src=\"https://unpkg.com/swagger-ui-dist@5.11.0/swagger-ui-bundle.js\" crossorigin></script>",
  "<script>",
  "    window.onload = () => \x7b",
  "    window.ui = SwaggerUIBundle(\x7b",
  "        url: '/openapi.yaml',",
  "        dom_id: '#swagger-ui',",
  "    \x7d);",
  "    \x7d;",
  "</script>",
  "</body>",
  "</html>"]

end Courier.Http
