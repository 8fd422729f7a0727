import ReplyTemplate.Proofs.Token

/-! Written templates token by token. In a scope every call that is opened is closed. -/

namespace ReplyTemplate.Template

open Token (ofChars written depthAfter)

def headTokens (plugin : String) : Option String → List Token
  | none => plugin.toList.map (written specialInName)
  | some argument =>
    plugin.toList.map (written specialInName) ++
      .equals :: argument.toList.map (written specialInArgument)

mutual

def sourceTokens (inScope : Bool) : Template → List Token
  | text contents => contents.toList.map (written (specialInText inScope))
  | group parts => sourceTokensAll inScope parts
  | call plugin argument none => .opening :: headTokens plugin argument ++ [.closing]
  | call plugin argument (some scope) =>
    .opening :: headTokens plugin argument ++ .bar :: sourceTokens true scope ++ [.closing]

def sourceTokensAll (inScope : Bool) : List Template → List Token
  | [] => []
  | part :: parts => sourceTokens inScope part ++ sourceTokensAll inScope parts

end

theorem ofChars_headChars (plugin : String) (argument : Option String) (rest : List Char) :
    ofChars (sourceChars.headChars plugin argument ++ rest) =
      headTokens plugin argument ++ ofChars rest := by
  have hplugin := Token.ofChars_escape specialInName rfl rfl plugin.toList
  cases argument with
  | none =>
    simp only [sourceChars.headChars, headTokens, List.append_nil]
    exact hplugin rest
  | some argument =>
    have hequals := Token.ofChars_cons (c := '=') (by decide) (by decide)
    have hargument := Token.ofChars_escape specialInArgument rfl rfl argument.toList rest
    simp only [sourceChars.headChars, headTokens, List.append_assoc, List.cons_append]
    rw [hplugin, hequals, hargument, Token.ofChar]

/-- What is written is read token by token, whatever follows it. -/
theorem ofChars_sourceChars (inScope : Bool) (template : Template) (rest : List Char) :
    ofChars (template.sourceChars inScope ++ rest) =
      template.sourceTokens inScope ++ ofChars rest := by
  induction template generalizing inScope rest with
  | text contents => exact Token.ofChars_escape (specialInText inScope) rfl rfl contents.toList rest
  | group parts ih =>
    rw [sourceChars, sourceTokens]
    induction parts with
    | nil => rfl
    | cons part parts ihParts =>
      rw [List.forall_mem_cons] at ih
      rw [sourceCharsAll, sourceTokensAll, List.append_assoc, ih.1, ihParts ih.2,
        List.append_assoc]
  | bareCall plugin argument =>
    have hclosing := Token.ofChars_cons (c := ')') (by decide) (by decide) rest
    simp [sourceChars, sourceTokens, ofChars_headChars, hclosing, Token.ofChar, ofChars]
  | scopedCall plugin argument scope ih =>
    have hbar := Token.ofChars_cons (c := '|') (by decide) (by decide)
    have hclosing := Token.ofChars_cons (c := ')') (by decide) (by decide) rest
    simp [sourceChars, sourceTokens, ofChars_headChars, hbar, hclosing, Token.ofChar, ofChars, ih]

theorem ofString_source (template : Template) :
    Token.ofString template.source = template.sourceTokens false := by
  have h := ofChars_sourceChars false template []
  rw [List.append_nil] at h
  rw [Token.ofString, source, String.toList_ofList, h]
  exact List.append_nil _

theorem depthAfter_headTokens (depth : Nat) (plugin : String) (argument : Option String) :
    depthAfter depth (headTokens plugin argument) = some depth := by
  have hplugin := Token.depthAfter_map_written specialInName rfl depth plugin.toList
  cases argument with
  | none => exact hplugin
  | some argument =>
    rw [headTokens, Token.depthAfter_append, hplugin, Option.bind_some, depthAfter]
    · exact Token.depthAfter_map_written specialInArgument rfl depth argument.toList
    all_goals simp

theorem depthAfter_sourceTokens (depth : Nat) (template : Template) :
    depthAfter depth (template.sourceTokens true) = some depth := by
  induction template generalizing depth with
  | text contents =>
    exact Token.depthAfter_map_written (specialInText true) rfl depth contents.toList
  | group parts ih =>
    rw [sourceTokens]
    induction parts with
    | nil => rfl
    | cons part parts ihParts =>
      rw [List.forall_mem_cons] at ih
      rw [sourceTokensAll, Token.depthAfter_append, ih.1, Option.bind_some, ihParts ih.2]
  | bareCall plugin argument =>
    simp [sourceTokens, depthAfter, Token.depthAfter_append, depthAfter_headTokens]
  | scopedCall plugin argument scope ih =>
    simp [sourceTokens, depthAfter, Token.depthAfter_append, depthAfter_headTokens, ih]

end ReplyTemplate.Template
