import DocViews.Literal
import DocViews.Metadata
import DocViews.Settings.Basic

/-!
# The source text of a view

Each document becomes one file of generated code: the imports, the namespace, the attribute line,
and a class whose method builds the view.

    using Ivy;

    namespace Acme.Apps.Setup;

    [App(order:1, icon:Icons.Rocket, title:"Intro")]
    public class IntroApp : ViewBase
    {
        public override object? Build()
        {
            return new Markdown(
                """
                # Intro
                """);
        }
    }

A document without a body has a view that builds nothing.
-/

set_option autoImplicit false

namespace DocViews

/-- The order of a document: from the source that counts first, else from the other one, else 0. -/
def resolveOrder (precedence : Precedence) (fileOrder metadataOrder : Option Int) : Int :=
  match precedence with
  | .fileName => (fileOrder <|> metadataOrder).getD 0
  | .metadata => (metadataOrder <|> fileOrder).getD 0

namespace ViewSource

/-- What a line of code is made of, with its line end. -/
def line (text : Text) : Text :=
  text ++ ['\n']

/-! ## The attribute -/

/-- The arguments of the attribute: the order, and what the metadata sets. -/
def attributeArguments (order : Int) (metadata : Metadata) (iconType : Text) : List Text :=
  let icon : List Text :=
    match Metadata.declared metadata.icon with
    | some name => ["icon:".toList ++ iconType ++ '.' :: Identifier.ofName name]
    | none => []
  let title : List Text :=
    match metadata.title with
    | some title => ["title:".toList ++ Literal.escaped title]
    | none => []
  let group : List Text :=
    if metadata.groupExpanded then ["groupExpanded:true".toList] else []
  ("order:".toList ++ Digits.ofInt order) :: (icon ++ title ++ group)

def attributeLine (order : Int) (metadata : Metadata) (target : Target) : Text :=
  '[' :: (target.attributeName ++ '(' ::
    (List.intercalate [',', ' '] (attributeArguments order metadata target.iconType) ++ [')', ']']))

/-! ## The file -/

/-- The indentation of a body. -/
def bodyIndent : Text :=
  List.replicate 12 ' '

/-- The base type of the view. -/
def baseType (metadata : Metadata) (target : Target) : Text :=
  (Metadata.declared metadata.viewBase).getD target.viewBase

/-- The imports, with an empty line behind them. -/
def importLines (imports : List Text) : Text :=
  if imports = [] then []
  else imports.flatMap (fun name => line ("using ".toList ++ name ++ [';'])) ++ ['\n']

/-- The statement that returns the view; a literal of several lines starts on a line of its own. -/
def returnStatement (viewType body : Text) : Text :=
  if body = [] then line "        return null;".toList
  else
    let literal := Literal.format bodyIndent body
    let start := "        return new ".toList ++ viewType ++ ['(']
    if literal.contains '\n' then line start ++ line (bodyIndent ++ literal ++ [')', ';'])
    else line (start ++ literal ++ [')', ';'])

/-- The whole file. -/
def write (target : Target) (nameSpace className : Text) (order : Int) (metadata : Metadata)
    (body : Text) : Text :=
  importLines target.imports ++
    line ("namespace ".toList ++ nameSpace ++ [';']) ++
    line [] ++
    line (attributeLine order metadata target) ++
    line ("public class ".toList ++ className ++ [' ', ':', ' '] ++ baseType metadata target) ++
    line ['\x7b'] ++
    line "    public override object? Build()".toList ++
    line "    \x7b".toList ++
    returnStatement target.viewType body ++
    line "    \x7d".toList ++
    line ['\x7d']

end ViewSource
end DocViews
