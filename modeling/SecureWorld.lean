import SecureWorld.Address.Page
import SecureWorld.Boot
import SecureWorld.Client
import SecureWorld.Call.Trial
import SecureWorld.Device.BenchGate
import SecureWorld.Device.Report
import SecureWorld.Image.Loader
import SecureWorld.Layout.Partition
import SecureWorld.Main
import SecureWorld.Sync.Guard
import SecureWorld.Sync.OnceCell
import SecureWorld.Proofs.Confinement
import SecureWorld.Proofs.Region
import SecureWorld.Proofs.Services
import SecureWorld.Proofs.Pages
import SecureWorld.Proofs.Ranges
import SecureWorld.Proofs.Table
import SecureWorld.Proofs.Window
import SecureWorld.Proofs.Catalogue
import SecureWorld.Proofs.Secrecy
import SecureWorld.Proofs.Protocol
import SecureWorld.Proofs.Runs
import SecureWorld.Proofs.Isolation
import SecureWorld.Proofs.Answers
import SecureWorld.Proofs.Effects
import SecureWorld.Proofs.Translation
import SecureWorld.Proofs.Decryption
import SecureWorld.Proofs.Disclosure
import SecureWorld.Proofs.Fixing
import SecureWorld.Proofs.Filling
import SecureWorld.Proofs.Client
import SecureWorld.Proofs.Guards
import SecureWorld.Proofs.WriteOnce
import SecureWorld.Proofs.Lexemes
import SecureWorld.Proofs.Grammar
import SecureWorld.Proofs.Mapping
import SecureWorld.Proofs.Staging
import SecureWorld.Proofs.Spans
import SecureWorld.Proofs.Disjointness
import SecureWorld.Proofs.Slots
import SecureWorld.Proofs.Fuses
import SecureWorld.Proofs.Validity
import SecureWorld.Proofs.CamelCase
import SecureWorld.Proofs.Rendering
import SecureWorld.Proofs.Variants
import SecureWorld.Proofs.Assembly
import SecureWorld.Proofs.Streaming
import SecureWorld.Proofs.Texts
import SecureWorld.Proofs.Transcript
