import DocViews.Text.Basic

/-!
# The stock settings file

A settings file with every setting at its stock value, and comments that say what it means.
-/

set_option autoImplicit false

namespace DocViews
namespace Settings

def stockLines : List String := [
  "# docs-codegen configuration",
  "# ==========================",
  "# All settings are optional. Values shown below are the defaults.",
  "# Place this file as docgen.toml in the input root, or pass --config.",
  "# Unknown keys will cause an error.",
  "",
  "# ---------------------------------------------------------------------------",
  "# Naming conventions",
  "# ---------------------------------------------------------------------------",
  "[naming]",
  "# Stem of a folder's landing document. Index documents are not numbered",
  "# themselves; they take their order from the parent folder's prefix.",
  "index_name = \"_Index\"",
  "",
  "# A leading folder with this name is kept out of generated namespaces.",
  "generated_root = \"Generated\"",
  "",
  "# ---------------------------------------------------------------------------",
  "# Project descriptor (source of <RootNamespace>)",
  "# ---------------------------------------------------------------------------",
  "[project]",
  "descriptor_extension = \"csproj\"",
  "",
  "# ---------------------------------------------------------------------------",
  "# Generated code",
  "# ---------------------------------------------------------------------------",
  "[target]",
  "# Namespace: {RootNamespace}.{apps_segment}.{Folder.Path}",
  "apps_segment = \"Apps\"",
  "",
  "# Generated files are written as {Stem}.g.{extension}",
  "extension = \"cs\"",
  "",
  "# Base class when a document's frontmatter has no viewBase key.",
  "view_base = \"ViewBase\"",
  "",
  "# Attribute listing order, icon, title and groupExpanded.",
  "attribute = \"App\"",
  "",
  "# Icons are emitted as {icon_type}.{icon}",
  "icon_type = \"Icons\"",
  "",
  "# View constructed around the document body.",
  "view_type = \"Markdown\"",
  "",
  "imports = [\"Ivy\", \"Ivy.Apps\", \"Ivy.Shared\", \"Ivy.Core\", \"Ivy.Views\"]",
  "",
  "# ---------------------------------------------------------------------------",
  "# Ordering",
  "# ---------------------------------------------------------------------------",
  "[ordering]",
  "# \"filename\": the NNN_ prefix wins, frontmatter order is the fallback.",
  "# \"metadata\": frontmatter order wins, the NNN_ prefix is the fallback.",
  "precedence = \"filename\"",
  "",
  "# ---------------------------------------------------------------------------",
  "# Processing",
  "# ---------------------------------------------------------------------------",
  "[processing]",
  "# Maximum parallel generation workers.",
  "# Omit or comment out to auto-detect (= number of CPU cores).",
  "# max_threads = 4"]

/-- The text of the file. -/
def stockText : Text :=
  stockLines.flatMap fun line => line.toList ++ ['\n']

end Settings
end DocViews
