import MemoryPane.Proofs.Bus.Delivery
import MemoryPane.Proofs.Highlight.Laws
import MemoryPane.Proofs.Pane.Account
import MemoryPane.Proofs.Pane.Answer
import MemoryPane.Proofs.Pane.Baseline
import MemoryPane.Proofs.Pane.Comparison
import MemoryPane.Proofs.Pane.Placement
import MemoryPane.Proofs.Pane.Scroll
import MemoryPane.Proofs.Pane.View
import MemoryPane.Proofs.Rendering.Catalog
import MemoryPane.Proofs.Rendering.Columns
import MemoryPane.Proofs.Rendering.Sharing
import MemoryPane.Proofs.Tab.Disposal
import MemoryPane.Proofs.Tab.Enabling
import MemoryPane.Proofs.Tab.Opening
import MemoryPane.Proofs.Tab.Rows
import MemoryPane.Proofs.Workspace
import MemoryPane.Rendering.Octal
import MemoryPane.Source.Script
import MemoryPane.Proofs.Pane.Bytes
import MemoryPane.Proofs.Pane.Snapshot
import MemoryPane.Proofs.Pane.Tally
import MemoryPane.Proofs.Source.Reading
import MemoryPane.Proofs.Source.Write
import MemoryPane.Proofs.Pane.Intent
import MemoryPane.Proofs.Address.Legible
import MemoryPane.Proofs.Address.Spelling
import MemoryPane.Proofs.Pane.Checked
