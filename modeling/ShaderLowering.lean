import ShaderLowering.Buffer.Journal
import ShaderLowering.Main
import ShaderLowering.Proofs.Buffer.Append
import ShaderLowering.Proofs.Buffer.HostValues
import ShaderLowering.Proofs.Buffer.Size
import ShaderLowering.Proofs.Lowering.ErrorPosition
import ShaderLowering.Proofs.Lowering.FirstError
import ShaderLowering.Proofs.Lowering.FixedPoint
import ShaderLowering.Proofs.Lowering.Frames
import ShaderLowering.Proofs.Lowering.Hygiene
import ShaderLowering.Proofs.Lowering.MoreTypes
import ShaderLowering.Proofs.Lowering.Provenance
import ShaderLowering.Proofs.Lowering.Recapture
import ShaderLowering.Proofs.Lowering.Respelling
import ShaderLowering.Proofs.Lowering.Reuse
import ShaderLowering.Proofs.Lowering.ShaderForm
import ShaderLowering.Proofs.Lowering.Transcript
import ShaderLowering.Proofs.Lowering.Visibility
import ShaderLowering.Proofs.Lowering.ZeroSpellings
import ShaderLowering.Proofs.Names.DottedPath
import ShaderLowering.Proofs.Names.Shadowing
import ShaderLowering.Proofs.Source.Conditionals
import ShaderLowering.Proofs.Source.Grouping
import ShaderLowering.Proofs.Source.Layout
import ShaderLowering.Proofs.Source.RoundTrip
import ShaderLowering.Proofs.Source.UnaryStacks
import ShaderLowering.Proofs.Tree.Literals
